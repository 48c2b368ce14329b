import ScriptClient.Message.Build

set_option autoImplicit false

/-! # What is built

A request is looked at through views: what one of its maps answers to a key, each of its options,
and the rest. One addition gives a view a new value or leaves it alone, so after a sequence of
additions a view has the last value that it was given (`view_addAll`). A request is all that its
views show (`ext_views`), so sequences that give the same last values build the same request
(`addAll_congr`). What is built is so known, and which additions can change places
(`requests_built`). -/

namespace ScriptClient.ExecuteRequest

/-- The ways to begin a request. -/
inductive Start where
  | get (path : String)
  | post (path : String)
  | new (path method : String)
  | default

/-- The request before any addition. -/
def Start.request : Start → ExecuteRequest
  | .get path => ExecuteRequest.get path
  | .post path => ExecuteRequest.post path
  | .new path method => ExecuteRequest.new path method
  | .default => {}

/-- The path and the method that a request is begun with. -/
def Start.pathAndMethod : Start → String × String
  | .get path => (path, "GET")
  | .post path => (path, "POST")
  | .new path method => (path, method)
  | .default => ("", "")

/-- A request begins with a path and a method, and nothing else. -/
theorem Start.request_eq (start : Start) :
    start.request =
      { scriptPath := start.pathAndMethod.1, method := start.pathAndMethod.2 } := by
  cases start <;> rfl

/-! ## What additions write -/

/-- The maps of a request. -/
inductive Part where
  | query
  | form
  | serverVars
  | cookies
  deriving DecidableEq

/-- A map of a request. -/
def part (r : ExecuteRequest) : Part → SortedMap String
  | .query => r.queryParams
  | .form => r.formData
  | .serverVars => r.serverVars
  | .cookies => r.cookies

namespace Addition

/-- The places in a request that additions write to: the keys of its maps, and its options. -/
inductive Slot where
  | key (part : Part) (key : String)
  | timeout
  | profiling
  deriving DecidableEq

/-- What the addition writes over. -/
def slot : Addition → Slot
  | .query k _ => .key .query k
  | .form k _ => .key .form k
  | .serverVar k _ => .key .serverVars k
  | .cookie k _ => .key .cookies k
  | .timeoutMs _ => .timeout
  | .profiling _ => .profiling

/-- The text that an addition writes, if it writes one. -/
def text? : Addition → Option String
  | .query _ v => some v
  | .form _ v => some v
  | .serverVar _ v => some v
  | .cookie _ v => some v
  | _ => none

/-- The value that an addition writes to a key of a map, if it does. -/
def valueAt? (p : Part) (k : String) (a : Addition) : Option String :=
  if a.slot = .key p k then a.text? else none

/-- The timeout that an addition sets, if it does. -/
def timeout? : Addition → Option UInt32
  | .timeoutMs n => some n
  | _ => none

/-- The profiling flag that an addition sets, if it does. -/
def profiling? : Addition → Option Bool
  | .profiling b => some b
  | _ => none

/-- Whether an addition sets an option. -/
def setsOption (a : Addition) : Bool :=
  a.timeout?.isSome || a.profiling?.isSome

theorem slot_of_valueAt? {p : Part} {k : String} {a : Addition} (h : a.valueAt? p k ≠ none) :
    a.slot = .key p k := by
  rw [valueAt?, ne_eq, ite_eq_right_iff, Classical.not_imp] at h
  exact h.1

theorem slot_of_timeout? {a : Addition} (h : a.timeout? ≠ none) : a.slot = .timeout := by
  cases a <;> simp_all [timeout?, slot]

theorem slot_of_profiling? {a : Addition} (h : a.profiling? ≠ none) : a.slot = .profiling := by
  cases a <;> simp_all [profiling?, slot]

/-- Of two additions to different slots, one gives no value to what is one slot. -/
theorem none_or_none {α : Type} {f : Addition → Option α} {s : Slot}
    (hf : ∀ {a}, f a ≠ none → a.slot = s) {a b : Addition} (h : a.slot ≠ b.slot) :
    f a = none ∨ f b = none := by
  by_cases ha : f a = none
  · exact .inl ha
  · exact .inr (Decidable.byContradiction fun hb => h ((hf ha).trans (hf hb).symm))

end Addition

/-! ## Last values -/

/-- The last value that the additions give through `f`. -/
def last? {α : Type} (f : Addition → Option α) (additions : List Addition) : Option α :=
  (additions.filterMap f).getLast?

section

variable {α : Type} {f : Addition → Option α}

theorem last?_cons (a : Addition) (additions : List Addition) :
    last? f (a :: additions) = (last? f additions).or (f a) := by
  rw [last?, List.filterMap_cons]
  cases f a with
  | none => rw [Option.or_none]; rfl
  | some v =>
    rw [last?, List.getLast?_cons]
    cases (additions.filterMap f).getLast? <;> rfl

/-- **Runs of additions.** If an addition gives a view the value `f` or leaves it alone, then a
sequence of additions gives it the last value. -/
theorem view_addAll (view : ExecuteRequest → α)
    (hview : ∀ r a, view (r.add a) = (f a).getD (view r)) (r : ExecuteRequest)
    (additions : List Addition) :
    view (r.addAll additions) = (last? f additions).getD (view r) := by
  induction additions generalizing r with
  | nil => rfl
  | cons a rest ih =>
    show view ((r.add a).addAll rest) = _
    rw [ih, hview, last?_cons]
    cases last? f rest <;> rfl

theorem view_addAll_of_kept (view : ExecuteRequest → α)
    (hview : ∀ r a, view (r.add a) = view r) (r : ExecuteRequest) (additions : List Addition) :
    view (r.addAll additions) = view r := by
  have hnone : last? (fun _ => (none : Option α)) additions = none := by simp [last?]
  rw [view_addAll view (f := fun _ => none) hview, hnone]
  rfl

theorem last?_map {β : Type} (g : α → β) (additions : List Addition) :
    last? (fun a => (f a).map g) additions = (last? f additions).map g := by
  rw [last?, last?, ← List.map_filterMap, List.getLast?_map]

/-- Two additions of which one gives no value can be swapped. -/
theorem last?_swap {a b : Addition} (h : f a = none ∨ f b = none) (before after : List Addition) :
    last? f (before ++ a :: b :: after) = last? f (before ++ b :: a :: after) := by
  rw [last?, last?, List.filterMap_append, List.filterMap_append]
  rcases h with h | h
  · simp only [List.filterMap_cons, h]
  · simp only [List.filterMap_cons, h]

/-- An addition can be repeated at once. -/
theorem last?_repeat (a : Addition) (before after : List Addition) :
    last? f (before ++ a :: a :: after) = last? f (before ++ a :: after) := by
  rw [last?, last?, List.filterMap_append, List.filterMap_append]
  cases h : f a with
  | none => simp only [List.filterMap_cons, h]
  | some v => simp [h, List.getLast?_append, List.getLast?_cons]

end

/-! ## Views of a request -/

/-- The options of a request, with defaults in the place of absent ones. -/
def givenOptions (r : ExecuteRequest) : RequestOptions :=
  r.options.getD {}

/-- The request without all that additions write. -/
def frame (r : ExecuteRequest) : ExecuteRequest :=
  { r with queryParams := ∅, formData := ∅, serverVars := ∅, cookies := ∅, options := none }

/-- Requests that show the same in all views are equal. -/
theorem ext_views {r r' : ExecuteRequest} (hparts : ∀ p k, (r.part p).get? k = (r'.part p).get? k)
    (hoptions : r.options = r'.options) (hframe : r.frame = r'.frame) : r = r' := by
  have hmaps : ∀ p, r.part p = r'.part p := fun p => SortedMap.ext_get? (hparts p)
  cases r
  cases r'
  rw [frame, frame, mk.injEq] at hframe
  obtain ⟨hpath, hmethod, -, -, -, -, htype, hbody, -⟩ := hframe
  rw [mk.injEq]
  exact ⟨hpath, hmethod, hmaps .query, hmaps .form, hmaps .serverVars, hmaps .cookies, htype,
    hbody, hoptions⟩

section

variable (r : ExecuteRequest) (a : Addition)

theorem get?_add (p : Part) (k : String) :
    ((r.add a).part p).get? k = ((a.valueAt? p k).map some).getD ((r.part p).get? k) := by
  cases a <;> cases p <;> simp only [add, part, Addition.valueAt?, Addition.slot] <;>
    grind [SortedMap.get?_insert, Addition.text?]

theorem isSome_options_add : (r.add a).options.isSome = (a.setsOption || r.options.isSome) := by
  cases a <;> rfl

theorem timeoutMs_add :
    (r.add a).givenOptions.timeoutMs = a.timeout?.getD r.givenOptions.timeoutMs := by
  cases a <;> rfl

theorem enableProfiling_add :
    (r.add a).givenOptions.enableProfiling = a.profiling?.getD r.givenOptions.enableProfiling := by
  cases a <;> rfl

theorem traceParent_add : (r.add a).givenOptions.traceParent = r.givenOptions.traceParent := by
  cases a <;> rfl

theorem frame_add : (r.add a).frame = r.frame := by
  cases a <;> rfl

end

section

variable (r : ExecuteRequest) (additions : List Addition)

theorem get?_addAll (p : Part) (k : String) :
    ((r.addAll additions).part p).get? k =
      (last? (Addition.valueAt? p k) additions).or ((r.part p).get? k) := by
  rw [view_addAll (fun r => (r.part p).get? k) fun r a => r.get?_add a p k, last?_map]
  cases last? (Addition.valueAt? p k) additions <;> rfl

theorem isSome_options_addAll :
    (r.addAll additions).options.isSome =
      (additions.any Addition.setsOption || r.options.isSome) := by
  induction additions generalizing r with
  | nil => rfl
  | cons a rest ih =>
    show ((r.add a).addAll rest).options.isSome = _
    rw [ih, isSome_options_add, List.any_cons, Bool.or_left_comm, Bool.or_assoc]

theorem givenOptions_addAll :
    (r.addAll additions).givenOptions =
      { timeoutMs := (last? Addition.timeout? additions).getD r.givenOptions.timeoutMs
        enableProfiling := (last? Addition.profiling? additions).getD r.givenOptions.enableProfiling
        traceParent := r.givenOptions.traceParent } := by
  rw [← view_addAll (fun r => r.givenOptions.timeoutMs) timeoutMs_add,
    ← view_addAll (fun r => r.givenOptions.enableProfiling) enableProfiling_add,
    ← view_addAll_of_kept (fun r => r.givenOptions.traceParent) traceParent_add r additions]

theorem frame_addAll : (r.addAll additions).frame = r.frame :=
  view_addAll_of_kept frame frame_add r additions

/-- Options are present exactly if they are set, or were present before. -/
theorem options_addAll :
    (r.addAll additions).options =
      if additions.any Addition.setsOption || r.options.isSome then
        some (r.addAll additions).givenOptions
      else none := by
  rw [← isSome_options_addAll, givenOptions]
  cases (r.addAll additions).options <;> rfl

end

/-! ## Built requests -/

/-- Sequences of additions that give the same last values build the same request. -/
theorem addAll_congr {additions additions' : List Addition}
    (hparts : ∀ p k, last? (Addition.valueAt? p k) additions =
      last? (Addition.valueAt? p k) additions')
    (htimeout : last? Addition.timeout? additions = last? Addition.timeout? additions')
    (hprofiling : last? Addition.profiling? additions = last? Addition.profiling? additions')
    (hset : additions.any Addition.setsOption = additions'.any Addition.setsOption)
    (r : ExecuteRequest) : r.addAll additions = r.addAll additions' := by
  apply ext_views
  · intro p k
    rw [get?_addAll, get?_addAll, hparts]
  · rw [options_addAll, options_addAll, givenOptions_addAll, givenOptions_addAll, htimeout,
      hprofiling, hset]
  · rw [frame_addAll, frame_addAll]

/-- Additions to different slots can be swapped. -/
theorem addAll_swap {a b : Addition} (h : a.slot ≠ b.slot) (before after : List Addition)
    (r : ExecuteRequest) :
    r.addAll (before ++ a :: b :: after) = r.addAll (before ++ b :: a :: after) := by
  apply addAll_congr
  · exact fun p k => last?_swap (Addition.none_or_none Addition.slot_of_valueAt? h) before after
  · exact last?_swap (Addition.none_or_none Addition.slot_of_timeout? h) before after
  · exact last?_swap (Addition.none_or_none Addition.slot_of_profiling? h) before after
  · simp only [List.any_append, List.any_cons, Bool.or_left_comm]

/-- An addition that is repeated at once changes nothing. -/
theorem addAll_repeat (a : Addition) (before after : List Addition) (r : ExecuteRequest) :
    r.addAll (before ++ a :: a :: after) = r.addAll (before ++ a :: after) := by
  apply addAll_congr
  · exact fun p k => last?_repeat a before after
  · exact last?_repeat a before after
  · exact last?_repeat a before after
  · simp only [List.any_append, List.any_cons, Bool.or_self_left]

/-- **Built requests.** However a request is begun and whatever is added to it: each of its maps has
exactly the keys that were written to it, each with the value that was written last. Options are
present exactly if one was set, and each is the one that was set last, or its default; there is no
trace. Path, method, content type and body are as at the start, which holds a path and a method
alone. Hence additions to different maps, keys or options can be swapped anywhere, and repeating one
at once changes nothing. -/
theorem requests_built (start : Start) (additions : List Addition) :
    let built := start.request.addAll
    let r := built additions
    (∀ p k, (r.part p).get? k = last? (Addition.valueAt? p k) additions) ∧
      (r.options = if additions.any Addition.setsOption then
          some { timeoutMs := (last? Addition.timeout? additions).getD 0
                 enableProfiling := (last? Addition.profiling? additions).getD false
                 traceParent := "" }
        else none) ∧
      (r.scriptPath = start.request.scriptPath ∧ r.method = start.request.method ∧
        r.contentType = start.request.contentType ∧ r.body = start.request.body) ∧
      (start.request =
        { scriptPath := start.pathAndMethod.1, method := start.pathAndMethod.2 }) ∧
      (∀ before a b after, a.slot ≠ b.slot →
        built (before ++ a :: b :: after) = built (before ++ b :: a :: after)) ∧
      ∀ before a after, built (before ++ a :: a :: after) = built (before ++ a :: after) := by
  intro built r
  have hnone : start.request.options = none := by rw [start.request_eq]
  have hempty : ∀ p, start.request.part p = ∅ := by
    intro p
    rw [start.request_eq]
    cases p <;> rfl
  have hgiven : start.request.givenOptions = {} := by rw [givenOptions, hnone]; rfl
  have hframe : r.frame = start.request.frame := start.request.frame_addAll additions
  refine ⟨?_, ?_, ?_, start.request_eq, fun before a b after h => addAll_swap h before after _,
    fun before a after => addAll_repeat a before after _⟩
  · intro p k
    rw [get?_addAll, hempty, SortedMap.get?_empty, Option.or_none]
  · rw [options_addAll, givenOptions_addAll, hnone, hgiven, Option.isSome_none, Bool.or_false]
  · have hkept {α : Type} (view : ExecuteRequest → α) :
        view r.frame = view start.request.frame :=
      congrArg view hframe
    exact ⟨hkept scriptPath, hkept method, hkept contentType, hkept body⟩

/-- Options that are set twice, between values of one key. -/
theorem requests_built_with_options :
    let additions : List Addition :=
      [.timeoutMs 5, .form "a" "1", .profiling true, .form "a" "2", .timeoutMs 7]
    let r := (Start.post "run.php").request.addAll additions
    r.options = some { timeoutMs := 7, enableProfiling := true } ∧
      r.formData.get? "a" = some "2" ∧ r.queryParams.get? "a" = none ∧ r.method = "POST" ∧
      (Addition.form "a" "1").slot ≠ (Addition.profiling true).slot ∧
      (Start.post "run.php").request.addAll
        [.timeoutMs 5, .profiling true, .form "a" "1", .form "a" "2", .timeoutMs 7] = r := by
  intro additions r
  obtain ⟨hparts, hoptions, ⟨-, hmethod, -⟩, -, hswap, -⟩ :=
    requests_built (.post "run.php") additions
  have hslots : (Addition.form "a" "1").slot ≠ (Addition.profiling true).slot := by decide
  exact ⟨hoptions, hparts .form "a", hparts .query "a", hmethod, hslots,
    (hswap [.timeoutMs 5] _ _ [.form "a" "2", .timeoutMs 7] hslots).symm⟩

end ScriptClient.ExecuteRequest
