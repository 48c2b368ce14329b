import ScriptClient.Proofs.Text.Hex
import ScriptClient.Proofs.Text.Pieces
import ScriptClient.Rpc.Ask

set_option autoImplicit false

/-! # The form of request identifiers

A random identifier is a UUID of version 4, whatever its bits are (`isUuid4_uuid`): five groups of
lowercase digits, of which one is the version and two bits are the variant. -/

namespace ScriptClient.Rpc

open Text

/-- Whether a text has the form of a UUID of version 4, in lowercase. -/
def isUuid4 (s : String) : Bool :=
  match splitAt '-' s.toList with
  | [low, mid, version, variant, node] =>
    [low, mid, version, variant, node].map List.length = [8, 4, 4, 4, 12] &&
      [low, mid, version, variant, node].all (·.all Hex.isLower) &&
      version.head? = some '4' && ['8', '9', 'a', 'b'].any fun c => variant.head? = some c
  | _ => false

/-- A digit of a number of which some bits are cleared and others set. -/
theorem digit_masked (n mask bits place : Nat) :
    (n &&& mask ||| bits) / 2 ^ place % 2 ^ 4 =
      n / 2 ^ place % 2 ^ 4 &&& mask / 2 ^ place % 2 ^ 4 ||| bits / 2 ^ place % 2 ^ 4 := by
  simp only [← Nat.shiftRight_eq_div_pow, Nat.shiftRight_or_distrib, Nat.shiftRight_and_distrib,
    Nat.or_mod_two_pow, Nat.and_mod_two_pow]

namespace RandomBits

/-- The first word of an identifier, with its version. -/
def firstWord (r : RandomBits) : Nat :=
  ((r.high &&& 0xffffffffffff0fff) ||| 0x4000).toNat

/-- The second word of an identifier, with its variant. -/
def secondWord (r : RandomBits) : Nat :=
  ((r.low &&& 0x3fffffffffffffff) ||| 0x8000000000000000).toNat

/-- The fourth digit from the end of the first word is the version. -/
theorem version_digit (r : RandomBits) : Hex.digit (r.firstWord / 16 ^ 3 % 16) = '4' := by
  have hdigit : r.firstWord / 2 ^ 12 % 2 ^ 4 = r.high.toNat / 2 ^ 12 % 2 ^ 4 &&& 0 ||| 4 := by
    rw [firstWord, UInt64.toNat_or, UInt64.toNat_and]
    exact digit_masked r.high.toNat 0xffffffffffff0fff 0x4000 12
  have hfour : r.firstWord / 16 ^ 3 % 16 = 4 := by
    rw [Nat.and_zero] at hdigit
    exact hdigit
  rw [hfour]
  rfl

/-- The first digit of the second word has the bits of the variant. -/
theorem variant_digit (r : RandomBits) :
    Hex.digit (r.secondWord / 16 ^ 15 % 16) ∈ ['8', '9', 'a', 'b'] := by
  have hdigit : r.secondWord / 2 ^ 60 % 2 ^ 4 = r.low.toNat / 2 ^ 60 % 2 ^ 4 &&& 3 ||| 8 := by
    rw [secondWord, UInt64.toNat_or, UInt64.toNat_and]
    exact digit_masked r.low.toNat 0x3fffffffffffffff 0x8000000000000000 60
  have hall : ∀ m : Fin 16, Hex.digit (m.val &&& 3 ||| 8) ∈ ['8', '9', 'a', 'b'] := by decide
  show Hex.digit (r.secondWord / 2 ^ 60 % 2 ^ 4) ∈ _
  rw [hdigit]
  exact hall ⟨_, Nat.mod_lt _ (by decide)⟩

/-- The digits of an identifier, in five groups. -/
theorem toList_uuid (r : RandomBits) :
    r.uuid.toList = Hex.fixed 8 (r.firstWord / 16 ^ 8) ++ '-' ::
      (Hex.fixed 4 (r.firstWord / 16 ^ 4) ++ '-' :: (Hex.fixed 4 r.firstWord ++ '-' ::
        (Hex.fixed 4 (r.secondWord / 16 ^ 12) ++ '-' :: Hex.fixed 12 r.secondWord))) := by
  have hfirst : Hex.fixed 16 r.firstWord = Hex.fixed 8 (r.firstWord / 16 ^ 8) ++
      (Hex.fixed 4 (r.firstWord / 16 ^ 4) ++ Hex.fixed 4 r.firstWord) := by
    rw [← Hex.fixed_add 4 4]
    exact Hex.fixed_add 8 8 _
  have hsecond : Hex.fixed 16 r.secondWord =
      Hex.fixed 4 (r.secondWord / 16 ^ 12) ++ Hex.fixed 12 r.secondWord :=
    Hex.fixed_add 4 12 _
  have htake : ∀ (width n : Nat) (rest : List Char),
      (Hex.fixed width n ++ rest).take width = Hex.fixed width n :=
    fun width n rest => List.take_left' (Hex.length_fixed width n)
  have hdrop : ∀ (width n : Nat) (rest : List Char),
      (Hex.fixed width n ++ rest).drop width = rest :=
    fun width n rest => List.drop_left' (Hex.length_fixed width n)
  have htwelve : ∀ cs : List Char, cs.drop 12 = (cs.drop 8).drop 4 :=
    fun cs => by rw [List.drop_drop]
  rw [uuid, String.toList_ofList]
  show (Hex.fixed 16 r.firstWord).take 8 ++ '-' :: ((Hex.fixed 16 r.firstWord).drop 8).take 4 ++
    '-' :: (Hex.fixed 16 r.firstWord).drop 12 ++ '-' :: (Hex.fixed 16 r.secondWord).take 4 ++
      '-' :: (Hex.fixed 16 r.secondWord).drop 4 = _
  rw [htwelve, hfirst, hsecond, htake, htake, hdrop, hdrop, htake, hdrop]
  simp only [List.append_assoc, List.cons_append]

/-- **The form of an identifier.** Whatever its bits are, an identifier is a UUID of version 4. -/
theorem isUuid4_uuid (r : RandomBits) : isUuid4 r.uuid = true := by
  have hlower : ∀ width n, (Hex.fixed width n).all Hex.isLower = true :=
    fun width n => List.all_eq_true.mpr fun _ => Hex.isLower_of_mem_fixed
  have hdash : ∀ width n, '-' ∉ Hex.fixed width n :=
    fun width n hmem => (Hex.isLower_facts (Hex.isLower_of_mem_fixed hmem)).2.2.1 rfl
  have hversion : (Hex.fixed 4 r.firstWord).head? = some '4' := by
    rw [Hex.fixed_succ_eq_cons, version_digit]
    rfl
  have hvariant : (['8', '9', 'a', 'b'].any fun c =>
      (Hex.fixed 4 (r.secondWord / 16 ^ 12)).head? = some c) = true := by
    refine List.any_eq_true.mpr ⟨_, variant_digit r, ?_⟩
    rw [Hex.fixed_succ_eq_cons, Nat.div_div_eq_div_mul]
    exact decide_eq_true rfl
  rw [isUuid4, toList_uuid, splitAt_append_cons (hdash _ _), splitAt_append_cons (hdash _ _),
    splitAt_append_cons (hdash _ _), splitAt_append_cons (hdash _ _),
    splitAt_of_not_mem (hdash _ _)]
  simp only [List.map_cons, List.map_nil, Hex.length_fixed, List.all_cons, List.all_nil, hlower,
    hversion, hvariant, decide_true, Bool.and_self]

/-- An identifier has only written digits and dashes. -/
theorem mem_uuid {r : RandomBits} {c : Char} (h : c ∈ r.uuid.toList) :
    Hex.isLower c = true ∨ c = '-' := by
  simp only [toList_uuid, List.mem_append, List.mem_cons] at h
  rcases h with h | rfl | h | rfl | h | rfl | h | rfl | h
  · exact .inl (Hex.isLower_of_mem_fixed h)
  · exact .inr rfl
  · exact .inl (Hex.isLower_of_mem_fixed h)
  · exact .inr rfl
  · exact .inl (Hex.isLower_of_mem_fixed h)
  · exact .inr rfl
  · exact .inl (Hex.isLower_of_mem_fixed h)
  · exact .inr rfl
  · exact .inl (Hex.isLower_of_mem_fixed h)

end RandomBits

end ScriptClient.Rpc
