import Mathlib.Algebra.GroupWithZero.Nat
import Mathlib.Data.List.Forall2
import ScriptClient.Proofs.Text.Decimal
import ScriptClient.Proofs.Text.Pieces

set_option autoImplicit false

/-! # Rows of numbers

Numbers that are written one after the other with leading zeros, each with a mark behind it
(`Column.writeRow`). The marks are enough to read them back (`Column.readRow?_writeRow`). If each
number fits its column, rows are ordered like the lists of their numbers
(`Column.writeRow_lt_writeRow_iff`). -/

namespace ScriptClient.Text

open Decimal

/-! ## Order of texts -/

/-- Behind fronts of one length, texts are compared by their fronts first. -/
theorem append_lt_append_iff {front front' rest rest' : List Char}
    (hlength : front.length = front'.length) :
    front ++ rest < front' ++ rest' ↔ front < front' ∨ front = front' ∧ rest < rest' := by
  induction front generalizing front' with
  | nil =>
    obtain rfl := List.length_eq_zero_iff.mp hlength.symm
    simp
  | cons c front ih =>
    cases front' with
    | nil => cases hlength
    | cons d front' =>
      rw [List.length_cons, List.length_cons, Nat.add_right_cancel_iff] at hlength
      rw [List.cons_append, List.cons_append, List.cons_lt_cons_iff, List.cons_lt_cons_iff,
        ih hlength, List.cons.injEq]
      tauto

/-! ## Rows -/

/-- A column of numbers: how many digits they have, and the mark behind them. -/
structure Column where
  width : Nat
  mark : Char

namespace Column

/-- Writes a number into each column. -/
def writeRow : List Column → List Nat → List Char
  | column :: columns, n :: ns => padded column.width n ++ column.mark :: writeRow columns ns
  | _, _ => []

/-- Reads the numbers in front of the marks. -/
def readRow? : (marks : List Char) → List Char → Option (List Nat)
  | [], [] => some []
  | [], _ :: _ => none
  | mark :: marks, cs =>
    let digits := cs.takeWhile Char.isDigit
    match cs.dropWhile Char.isDigit with
    | [] => none
    | c :: rest =>
      if digits ≠ [] ∧ c = mark then
        (readRow? marks rest).map (Nat.ofDigitChars 10 digits 0 :: ·)
      else none

/-- Each number has as many digits as its column. -/
def Fits : List Column → List Nat → Prop :=
  List.Forall₂ fun column n => 0 < column.width ∧ n < 10 ^ column.width

/-- **Rows are read back** if no mark is a digit. -/
theorem readRow?_writeRow {columns : List Column} {ns : List Nat}
    (hlength : ns.length = columns.length)
    (hmarks : ∀ column ∈ columns, column.mark.isDigit = false) :
    readRow? (columns.map mark) (writeRow columns ns) = some ns := by
  induction columns generalizing ns with
  | nil =>
    obtain rfl := List.length_eq_zero_iff.mp hlength
    rfl
  | cons column columns ih =>
    cases ns with
    | nil => cases hlength
    | cons n ns =>
      rw [List.length_cons, List.length_cons, Nat.add_right_cancel_iff] at hlength
      rw [List.forall_mem_cons] at hmarks
      have hdigits : ∀ c ∈ padded column.width n, c.isDigit = true :=
        fun _ => isDigit_of_mem_padded
      obtain ⟨htake, hdrop⟩ :=
        takeWhile_append_cons hdigits hmarks.1 (writeRow columns ns)
      simp only [List.map_cons, writeRow, readRow?, htake, hdrop, ih hlength hmarks.2,
        padded_ne_nil, ne_eq, not_false_iff, and_self, if_true, Option.map_some,
        ofDigitChars_padded]

theorem length_writeRow {columns : List Column} {ns : List Nat} (h : Fits columns ns) :
    (writeRow columns ns).length = (columns.map (·.width + 1)).sum := by
  induction h with
  | nil => rfl
  | cons hfits _ ih =>
    rw [writeRow, List.length_append, List.length_cons, length_padded hfits.1 hfits.2, ih,
      List.map_cons, List.sum_cons]
    omega

/-- **Rows in order.** Rows are ordered like the lists of their numbers, if each number has as many
digits as its column. -/
theorem writeRow_lt_writeRow_iff {columns : List Column} {ms ns : List Nat} (hm : Fits columns ms)
    (hn : Fits columns ns) : writeRow columns ms < writeRow columns ns ↔ ms < ns := by
  induction hm generalizing ns with
  | nil => cases hn; simp [writeRow]
  | cons hfits _ ih =>
    cases hn with
    | cons hfits' hn =>
      have hlength := (length_padded hfits.1 hfits.2).trans (length_padded hfits'.1 hfits'.2).symm
      rw [writeRow, writeRow, append_lt_append_iff hlength, List.cons_lt_cons_self, ih hn,
        padded_lt_padded_iff hfits.1 hfits.2 hfits'.2, padded_inj, List.cons_lt_cons_iff]

end Column

end ScriptClient.Text
