import Mathlib.Data.List.GetD
import Mathlib.Data.List.TakeWhile

/-! Terminated strings in memory, and stores into an array that may miss it. -/

set_option autoImplicit false

namespace MiniMiner.CString

section Text

variable {Symbol : Type} [DecidableEq Symbol] {terminator : Symbol}

/-- The symbols before the first terminator. -/
def text (terminator : Symbol) (memory : List Symbol) : List Symbol :=
  memory.takeWhile (· ≠ terminator)

def strlen (terminator : Symbol) (memory : List Symbol) : Nat := (text terminator memory).length

theorem text_of_terminated {characters : List Symbol} (clean : terminator ∉ characters)
    (rest : List Symbol) : text terminator (characters ++ terminator :: rest) = characters := by
  have passed : ∀ symbol ∈ characters, decide (symbol ≠ terminator) = true := by
    intro symbol member
    refine decide_eq_true fun same => clean ?_
    rw [← same]
    exact member
  rw [text, List.takeWhile_append_of_pos passed, List.takeWhile_cons_of_neg (by simp),
    List.append_nil]

theorem text_eq_take (memory : List Symbol) :
    text terminator memory = memory.take (strlen terminator memory) :=
  List.prefix_iff_eq_take.mp <| List.takeWhile_prefix _

theorem terminator_notMem_text (memory : List Symbol) : terminator ∉ text terminator memory := by
  intro member
  have different := List.mem_takeWhile_imp member
  simp at different

theorem text_append {field : List Symbol} (present : terminator ∈ field) (rest : List Symbol) :
    text terminator (field ++ rest) = text terminator field := by
  obtain ⟨before, after, rfl, clean⟩ := List.eq_append_cons_of_mem present
  rw [List.append_assoc, List.cons_append, text_of_terminated clean, text_of_terminated clean]

theorem strlen_append_lt_iff (terminator : Symbol) (field rest : List Symbol) :
    strlen terminator (field ++ rest) < field.length ↔ terminator ∈ field := by
  constructor
  · intro short
    by_contra missing
    have passed : ∀ symbol ∈ field, decide (symbol ≠ terminator) = true :=
      fun symbol member => decide_eq_true fun same => missing (same ▸ member)
    rw [strlen, text, List.takeWhile_append_of_pos passed, List.length_append] at short
    omega
  · intro present
    obtain ⟨before, after, rfl, clean⟩ := List.eq_append_cons_of_mem present
    rw [List.append_assoc, List.cons_append, strlen, text_of_terminated clean,
      List.length_append, List.length_cons]
    omega

end Text

section Stores

variable {Symbol : Type}

theorem map_getD_range (memory : List Symbol) (start : Nat) {length : Nat}
    (inside : start + length ≤ memory.length) (other : Symbol) :
    (List.range length).map (fun place => memory.getD (start + place) other) =
      (memory.drop start).take length := by
  apply List.ext_getElem
  · rw [List.length_map, List.length_range, List.length_take, List.length_drop]
    omega
  · intro place left right
    rw [List.length_map, List.length_range] at left
    have present : start + place < memory.length := by omega
    rw [List.getElem_map, List.getElem_range, List.getElem_take, List.getElem_drop,
      List.getD_eq_getElem _ _ present]

structure Store (Symbol : Type) where
  index : Nat
  value : Symbol
  deriving DecidableEq

/-- The stores of a copy to consecutive places. -/
def storesAt (start : Nat) : List Symbol → List (Store Symbol)
  | [] => []
  | value :: rest => ⟨start, value⟩ :: storesAt (start + 1) rest

/-- A store beside the array has no defined result. -/
def store (array : List Symbol) (one : Store Symbol) : Option (List Symbol) :=
  if one.index < array.length then some (array.set one.index one.value) else none

def storeAll (array : List Symbol) : List (Store Symbol) → Option (List Symbol)
  | [] => some array
  | one :: rest => (store array one).bind fun stored => storeAll stored rest

theorem storesAt_inside_iff (start bound : Nat) (values : List Symbol) :
    (∀ one ∈ storesAt start values, one.index < bound) ↔
      values = [] ∨ start + values.length ≤ bound := by
  induction values generalizing start with
  | nil => simp [storesAt]
  | cons value rest ih =>
      simp only [storesAt, List.forall_mem_cons, ih (start + 1), List.length_cons,
        reduceCtorEq, false_or]
      constructor
      · rintro ⟨first, others⟩
        rcases others with rfl | others
        · exact first
        · omega
      · intro inside
        exact ⟨by omega, Or.inr (by omega)⟩

theorem storeAll_append (array : List Symbol) (first second : List (Store Symbol)) :
    storeAll array (first ++ second) =
      (storeAll array first).bind fun stored => storeAll stored second := by
  induction first generalizing array with
  | nil => rfl
  | cons one rest ih =>
      simp only [List.cons_append, storeAll, Option.bind_assoc, ih]

theorem storeAll_isSome_iff (array : List Symbol) (stores : List (Store Symbol)) :
    (storeAll array stores).isSome ↔ ∀ one ∈ stores, one.index < array.length := by
  induction stores generalizing array with
  | nil => simp [storeAll]
  | cons one rest ih =>
      rw [storeAll, store, List.forall_mem_cons]
      split
      · next inside =>
        rw [Option.bind_some, ih, List.length_set]
        exact (and_iff_right inside).symm
      · next outside =>
        simp [outside]

/-- A copy replaces the part of the array it is written over. -/
theorem storeAll_storesAt (before : List Symbol) {old values : List Symbol}
    (same : old.length = values.length) (after : List Symbol) :
    storeAll (before ++ (old ++ after)) (storesAt before.length values) =
      some (before ++ (values ++ after)) := by
  induction values generalizing before old with
  | nil =>
      rw [List.eq_nil_of_length_eq_zero same]
      rfl
  | cons value rest ih =>
      obtain ⟨replaced, remaining, rfl⟩ := List.exists_cons_of_length_eq_add_one same
      have inside : before.length < (before ++ (replaced :: remaining ++ after)).length := by
        simp
      have shorter : remaining.length = rest.length := Nat.succ.inj same
      have later := ih (before ++ [value]) shorter
      rw [List.length_append, List.length_singleton, List.append_assoc,
        List.append_assoc] at later
      rw [storesAt, storeAll, store, if_pos inside, Option.bind_some, List.cons_append,
        List.set_append_right _ _ (Nat.le_refl _), Nat.sub_self, List.set_cons_zero]
      exact later

end Stores

end MiniMiner.CString
