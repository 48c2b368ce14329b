import ScriptClient.Endpoint.Target
import ScriptClient.Proofs.Endpoint.PathAndQuery

set_option autoImplicit false

/-! # What targets name

A target that begins with a scheme names the authority behind the two slashes; any other target
begins with its authority. Two schemes are looked for, and only in lowercase. A target with another
one is read as if it had none: its authority is the scheme with its colon, which is a good one for
every scheme (`isAuthority_scheme`). `targets_named` is the main result. -/

namespace ScriptClient.Endpoint

/-! ## Schemes -/

/-- Whether a scheme may hold the character after its first. -/
def isSchemeChar (c : Char) : Bool :=
  c.isAlphanum || c = '+' || c = '-' || c = '.'

/-- The text is a scheme: a letter, and then letters, digits and three marks. -/
def IsScheme (cs : List Char) : Prop :=
  ∃ first rest, cs = first :: rest ∧ first.isAlpha = true ∧ ∀ c ∈ rest, isSchemeChar c = true

/-- The target begins with the scheme, and `rest` follows the colon and the slashes behind it. -/
structure HasScheme (target scheme rest : List Char) : Prop where
  isScheme : IsScheme scheme
  target_eq : target = scheme ++ ':' :: '/' :: '/' :: rest

/-- The schemes that are looked for: the one with encryption, and the one without. -/
def schemeOf (secure : Bool) : List Char :=
  (if secure then "https" else "http").toList

/-- The scheme is looked for. -/
def Supported (scheme : List Char) : Prop :=
  ∃ secure, scheme = schemeOf secure

theorem isScheme_of_all {first : Char} {rest : List Char} (hfirst : first.isAlpha = true)
    (hrest : rest.all isSchemeChar = true) : IsScheme (first :: rest) :=
  ⟨first, rest, rfl, hfirst, List.all_eq_true.mp hrest⟩

theorem IsScheme.forall_mem {scheme : List Char} (h : IsScheme scheme) :
    ∀ c ∈ scheme, isSchemeChar c = true := by
  obtain ⟨first, rest, rfl, hfirst, hrest⟩ := h
  rw [List.forall_mem_cons]
  refine ⟨?_, hrest⟩
  simp [isSchemeChar, Char.isAlphanum, hfirst]

theorem ne_of_isSchemeChar {c d : Char} (hc : isSchemeChar c = true)
    (hd : isSchemeChar d = false) : c ≠ d := by
  rintro rfl
  exact Bool.false_ne_true (hd.symm.trans hc)

theorem endsAuthority_of_isSchemeChar {c : Char} (h : isSchemeChar c = true) :
    endsAuthority c = false := by
  have hslash : c ≠ '/' := ne_of_isSchemeChar h (by decide)
  have hquestion : c ≠ '?' := ne_of_isSchemeChar h (by decide)
  have hhash : c ≠ '#' := ne_of_isSchemeChar h (by decide)
  simp [endsAuthority, hslash, hquestion, hhash]

/-- A scan goes over the characters of a scheme without taking notice. -/
theorem step?_of_isSchemeChar {c : Char} (h : isSchemeChar c = true) (s : Scan) :
    s.step? c = some s := by
  have hchar : isAuthorityChar c = true := by
    have hc := h
    simp only [isSchemeChar, Bool.or_eq_true, decide_eq_true_eq] at hc
    rcases hc with ((hc | rfl) | rfl) | rfl
    · rw [isAuthorityChar, hc, Bool.true_or]
    all_goals decide
  have hpercent : c ≠ '%' := ne_of_isSchemeChar h (by decide)
  have hcolon : c ≠ ':' := ne_of_isSchemeChar h (by decide)
  have hopening : c ≠ '[' := ne_of_isSchemeChar h (by decide)
  have hclosing : c ≠ ']' := ne_of_isSchemeChar h (by decide)
  have hat : c ≠ '@' := ne_of_isSchemeChar h (by decide)
  rw [Scan.step?, if_neg hpercent, if_neg hcolon, if_neg hopening, if_neg hclosing, if_neg hat,
    if_pos hchar]

/-! ## Authorities -/

/-- The authority that begins a text. -/
def authorityOf (cs : List Char) : List Char :=
  cs.takeWhile (!endsAuthority ·)

theorem authorityOf_append {front : List Char} (hfront : ∀ c ∈ front, endsAuthority c = false)
    {mark : Char} (hmark : endsAuthority mark = true) (rest : List Char) :
    authorityOf (front ++ mark :: rest) = front ∧
      (front ++ mark :: rest).dropWhile (!endsAuthority ·) = mark :: rest := by
  have hall : ∀ c ∈ front, (!endsAuthority c) = true := fun c hc => by rw [hfront c hc]; rfl
  exact Text.takeWhile_append_cons hall (by rw [hmark]; rfl) rest

theorem foldlM_step?_of_scheme {cs : List Char} (h : ∀ c ∈ cs, isSchemeChar c = true) (s : Scan) :
    cs.foldlM Scan.step? s = some s := by
  induction cs with
  | nil => rfl
  | cons c cs ih =>
    rw [List.forall_mem_cons] at h
    rw [List.foldlM_cons, step?_of_isSchemeChar h.1]
    exact ih h.2

/-- A scheme with its colon is an authority: a host, and a number of no digits. -/
theorem isAuthority_scheme {scheme : List Char} (h : IsScheme scheme) :
    isAuthority (scheme ++ [':']) = true := by
  have hscan : (scheme ++ [':']).foldlM Scan.step? {} = some { colons := 1 } := by
    rw [List.foldlM_append, foldlM_step?_of_scheme h.forall_mem]
    rfl
  simp [isAuthority, hscan]

/-! ## Reading targets -/

theorem readAfterScheme?_eq_some_iff {secure : Bool} {cs : List Char} {uri : Uri} :
    readAfterScheme? secure cs = some uri ↔
      isAuthority (authorityOf cs) = true ∧ uri.secure = secure ∧
        uri.authority = authorityOf cs ∧
        HoldsPath (cs.dropWhile (!endsAuthority ·)) uri.pathAndQuery := by
  simp only [readAfterScheme?, Option.ite_none_right_eq_some, Option.map_eq_some_iff,
    pathAndQuery?_eq_some_iff]
  refine and_congr_right fun _ => ⟨?_, ?_⟩
  · rintro ⟨path, hpath, rfl⟩
    exact ⟨rfl, rfl, hpath⟩
  · rintro ⟨rfl, hauthority, hpath⟩
    exact ⟨_, hpath, by rw [← authorityOf, ← hauthority]⟩

/-- How a text with one of the two schemes begins. -/
def frontOf (secure : Bool) : List Char :=
  schemeOf secure ++ ':' :: '/' :: ['/']

theorem readUri?_append (secure : Bool) (cs : List Char) :
    readUri? (frontOf secure ++ cs) =
      if Text.byteCount (frontOf secure ++ cs) ≤ maxUriBytes then readAfterScheme? secure cs
      else none := by
  cases secure <;> rfl

theorem ofTarget_eq_ok_iff {target : String} {uri : Uri} :
    ofTarget target = .ok uri ↔ readUri? (uriOf target.toList) = some uri := by
  rw [ofTarget]
  cases readUri? (uriOf target.toList) <;> simp

/-- A target with one of the two schemes is read as it stands. -/
theorem ofTarget_of_supported {target : String} {uri : Uri} {secure : Bool} {cs : List Char}
    (h : target.toList = frontOf secure ++ cs) :
    ofTarget target = .ok uri ↔
      Text.byteCount target.toList ≤ maxUriBytes ∧ readAfterScheme? secure cs = some uri := by
  have huri : uriOf (frontOf secure ++ cs) = frontOf secure ++ cs := by
    cases secure <;> rfl
  rw [ofTarget_eq_ok_iff, h, huri, readUri?_append, Option.ite_none_right_eq_some]

/-- Any other target is read behind the scheme without encryption. -/
theorem ofTarget_of_other {target : String} {uri : Uri}
    (h : ∀ secure cs, target.toList ≠ frontOf secure ++ cs) :
    ofTarget target = .ok uri ↔
      Text.byteCount (plainScheme ++ target.toList) ≤ maxUriBytes ∧
        readAfterScheme? false target.toList = some uri := by
  have hfront : ∀ secure, (frontOf secure).isPrefixOf target.toList = false := by
    intro secure
    refine Bool.eq_false_iff.mpr fun hprefix => ?_
    obtain ⟨cs, hcs⟩ := List.isPrefixOf_iff_prefix.mp hprefix
    exact h secure cs hcs.symm
  have huri : uriOf target.toList = frontOf false ++ target.toList := by
    show (if (frontOf false).isPrefixOf _ || (frontOf true).isPrefixOf _ then _ else _) = _
    rw [hfront, hfront]
    rfl
  rw [ofTarget_eq_ok_iff, huri, readUri?_append, Option.ite_none_right_eq_some]
  rfl

/-! ## Targets and their schemes -/

/-- The first colon of a target ends its scheme. -/
theorem HasScheme.split_colon {target scheme rest : List Char} (h : HasScheme target scheme rest) :
    target.takeWhile (· ≠ ':') = scheme ∧
      target.dropWhile (· ≠ ':') = ':' :: '/' :: '/' :: rest := by
  have hcolon : ':' ∉ scheme := fun hmem =>
    Bool.false_ne_true (h.isScheme.forall_mem ':' hmem)
  rw [h.target_eq]
  exact takeWhile_append_mark hcolon (.inr ⟨_, rfl⟩)

theorem hasScheme_frontOf (secure : Bool) (cs : List Char) :
    HasScheme (frontOf secure ++ cs) (schemeOf secure) cs := by
  refine ⟨?_, ?_⟩
  · cases secure with
    | false => exact isScheme_of_all (by decide) (by decide)
    | true => exact isScheme_of_all (by decide) (by decide)
  · rw [frontOf, List.append_assoc]
    rfl

theorem HasScheme.eq_frontOf {target rest : List Char} {secure : Bool}
    (h : HasScheme target (schemeOf secure) rest) : target = frontOf secure ++ rest := by
  rw [h.target_eq, frontOf, List.append_assoc]
  rfl

theorem HasScheme.ne_frontOf {target scheme rest : List Char} (h : HasScheme target scheme rest)
    (hother : ¬ Supported scheme) : ∀ secure cs, target ≠ frontOf secure ++ cs := by
  rintro secure cs rfl
  exact hother ⟨secure, h.split_colon.1.symm.trans (hasScheme_frontOf secure cs).split_colon.1⟩

/-- Behind a scheme, an authority ends with the colon. -/
theorem HasScheme.authorityOf_eq {target scheme rest : List Char}
    (h : HasScheme target scheme rest) :
    authorityOf target = scheme ++ [':'] ∧
      target.dropWhile (!endsAuthority ·) = '/' :: '/' :: rest := by
  have hfront : ∀ c ∈ scheme ++ [':'], endsAuthority c = false := by
    intro c hc
    rcases List.mem_append.mp hc with hc | hc
    · exact endsAuthority_of_isSchemeChar (h.isScheme.forall_mem c hc)
    · rw [List.mem_singleton.mp hc]
      decide
  have htarget : target = (scheme ++ [':']) ++ '/' :: '/' :: rest := by
    rw [h.target_eq, List.append_assoc]
    rfl
  rw [htarget]
  exact authorityOf_append hfront (by decide) _

/-- **What targets name.** If a target is accepted, its scheme decides. With one of the two schemes,
its authority is the text behind the slashes up to the first `/`, `?` or `#`; without any scheme, it
is the text of the target up to there. With any other scheme the target is accepted whenever it is
not too long and a path can begin with the slashes, and its authority is then the scheme and the
colon. -/
theorem targets_named (target : String) :
    (∀ uri, ofTarget target = .ok uri →
      (∀ scheme rest, HasScheme target.toList scheme rest →
        (Supported scheme → scheme = schemeOf uri.secure ∧ uri.authority = authorityOf rest) ∧
        (¬ Supported scheme → uri.secure = false ∧ uri.authority = scheme ++ [':'])) ∧
      ((¬ ∃ scheme rest, HasScheme target.toList scheme rest) →
        uri.secure = false ∧ uri.authority = authorityOf target.toList)) ∧
    ∀ scheme rest, HasScheme target.toList scheme rest → ¬ Supported scheme →
      ((∃ uri, ofTarget target = .ok uri) ↔
        Text.byteCount (plainScheme ++ target.toList) ≤ maxUriBytes ∧
          ∃ path, HoldsPath ('/' :: '/' :: rest) path) := by
  refine ⟨fun uri h => ⟨fun scheme rest hscheme => ⟨?_, ?_⟩, ?_⟩, ?_⟩
  · rintro ⟨secure, rfl⟩
    obtain ⟨-, hread⟩ := (ofTarget_of_supported hscheme.eq_frontOf).mp h
    obtain ⟨-, rfl, hauthority, -⟩ := readAfterScheme?_eq_some_iff.mp hread
    exact ⟨rfl, hauthority⟩
  · intro hother
    obtain ⟨-, hread⟩ := (ofTarget_of_other (hscheme.ne_frontOf hother)).mp h
    obtain ⟨-, hsecure, hauthority, -⟩ := readAfterScheme?_eq_some_iff.mp hread
    exact ⟨hsecure, hauthority.trans hscheme.authorityOf_eq.1⟩
  · intro hnone
    have hother : ∀ secure cs, target.toList ≠ frontOf secure ++ cs := fun secure cs heq =>
      hnone ⟨_, _, heq ▸ hasScheme_frontOf secure cs⟩
    obtain ⟨-, hread⟩ := (ofTarget_of_other hother).mp h
    obtain ⟨-, hsecure, hauthority, -⟩ := readAfterScheme?_eq_some_iff.mp hread
    exact ⟨hsecure, hauthority⟩
  · intro scheme rest hscheme hother
    obtain ⟨hauthority, hpath⟩ := hscheme.authorityOf_eq
    simp only [ofTarget_of_other (hscheme.ne_frontOf hother), readAfterScheme?_eq_some_iff,
      hauthority, hpath, isAuthority_scheme hscheme.isScheme, true_and, exists_and_left]
    refine and_congr_right fun _ => ⟨?_, ?_⟩
    · rintro ⟨uri, -, -, hholds⟩
      exact ⟨_, hholds⟩
    · rintro ⟨path, hholds⟩
      exact ⟨⟨false, scheme ++ [':'], path⟩, rfl, rfl, hholds⟩

theorem not_supported_of_ne {scheme : List Char} (h : ∀ secure, scheme ≠ schemeOf secure) :
    ¬ Supported scheme :=
  fun ⟨secure, heq⟩ => h secure heq

/-- The authorities of a target with a scheme, of one without, and of one with another scheme. -/
theorem targets_named_in_three_ways :
    (∃ uri, ofTarget "https://me@host:443/a?b#c" = .ok uri ∧ uri.secure = true ∧
        uri.authority = "me@host:443".toList) ∧
      (∃ uri, ofTarget "localhost:50051/a:b" = .ok uri ∧ uri.authority = "localhost:50051".toList) ∧
      ∃ uri, ofTarget "h2c+tls://host" = .ok uri ∧ uri.authority = "h2c+tls:".toList := by
  refine ⟨?_, ?_, ?_⟩
  · have hscheme : HasScheme "https://me@host:443/a?b#c".toList "https".toList
        "me@host:443/a?b#c".toList := ⟨isScheme_of_all (by decide) (by decide), rfl⟩
    obtain ⟨-, hauthority⟩ :=
      ((targets_named "https://me@host:443/a?b#c").1 _ rfl).1 _ _ hscheme |>.1 ⟨true, rfl⟩
    exact ⟨_, rfl, rfl, hauthority⟩
  · have hnone : ¬ ∃ scheme rest, HasScheme "localhost:50051/a:b".toList scheme rest := by
      rintro ⟨scheme, rest, hscheme⟩
      exact absurd (congrArg (·[1]?) hscheme.split_colon.2) (by simp)
    exact ⟨_, rfl, (((targets_named "localhost:50051/a:b").1 _ rfl).2 hnone).2⟩
  · have hscheme : HasScheme "h2c+tls://host".toList "h2c+tls".toList "host".toList :=
      ⟨isScheme_of_all (by decide) (by decide), rfl⟩
    have hother : ¬ Supported "h2c+tls".toList := not_supported_of_ne (by decide)
    obtain ⟨uri, huri⟩ := ((targets_named "h2c+tls://host").2 _ _ hscheme hother).mpr
      ⟨by decide, _, pathAndQuery?_eq_some_iff.mp rfl⟩
    exact ⟨uri, huri, (((targets_named "h2c+tls://host").1 uri huri).1 _ _ hscheme |>.2 hother).2⟩

/-- A scheme that is not looked for is taken for a host, and so is one in capitals. -/
theorem scheme_taken_for_host :
    HasScheme "ftp://host".toList "ftp".toList "host".toList ∧
      ofTarget "ftp://host" = .ok ⟨false, "ftp:".toList, "//host".toList⟩ ∧
      HasScheme "HTTP://host".toList "HTTP".toList "host".toList ∧
      ofTarget "HTTP://host" = .ok ⟨false, "HTTP:".toList, "//host".toList⟩ ∧
      authorityOf "host".toList = "host".toList :=
  ⟨⟨isScheme_of_all (by decide) (by decide), rfl⟩, rfl,
    ⟨isScheme_of_all (by decide) (by decide), rfl⟩, rfl, by decide⟩

end ScriptClient.Endpoint
