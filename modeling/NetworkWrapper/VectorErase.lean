import Mathlib.Data.List.Basic
import Mathlib.Data.List.Perm.Basic

set_option autoImplicit false

namespace NetworkWrapper

variable {T : Type}

-- std::swap of two elements of one vector.
def swapElements (container : List T) (first second : Nat) : List T :=
  match container[first]?, container[second]? with
  | some a, some b => (container.set first b).set second a
  | _, _ => container

-- An iterator is its index; end() is the length.
def stdVectorNoReallocEraseByIterator (container : List T) (iterator : Nat) : Bool × List T :=
  if iterator = container.length then (false, container)
  else
    let isLastElement : Bool := iterator = container.length - 1
    let swapped := if isLastElement then container else swapElements container iterator (container.length - 1)
    (true, swapped.dropLast)

def stdVectorNoReallocEraseByCallback (container : List T) (findCallback : T → Bool) : Bool × List T :=
  let iterator := container.findIdx findCallback
  if iterator = container.length then (false, container)
  else stdVectorNoReallocEraseByIterator container iterator

def stdVectorNoReallocEraseByValue [DecidableEq T] (container : List T) (value : T) : Bool × List T :=
  let iterator := container.findIdx (fun element => element = value)
  if iterator = container.length then (false, container)
  else stdVectorNoReallocEraseByIterator container iterator

def withoutElement (before after : List T) : List T := before ++ (after.getLast?.toList ++ after.dropLast)

theorem find_split (findCallback : T → Bool) (container : List T) :
    (∀ element ∈ container, findCallback element = false) ∨
    ∃ before removed after, container = before ++ removed :: after ∧ findCallback removed = true ∧
      ∀ element ∈ before, findCallback element = false := by
  induction container with
  | nil => exact .inl (by simp)
  | cons head tail ih =>
      by_cases hit : findCallback head = true
      · exact .inr ⟨[], head, tail, rfl, hit, by simp⟩
      · have miss : findCallback head = false := by simpa using hit
        rcases ih with absent | ⟨before, removed, after, rfl, found, first⟩
        · exact .inl (List.forall_mem_cons.mpr ⟨miss, absent⟩)
        · exact .inr ⟨head :: before, removed, after, rfl, found, List.forall_mem_cons.mpr ⟨miss, first⟩⟩

theorem erase_at_split (before after : List T) (removed : T) :
    stdVectorNoReallocEraseByIterator (before ++ removed :: after) before.length =
      (true, withoutElement before after) := by
  rcases List.eq_nil_or_concat after with rfl | ⟨middle, last, rfl⟩
  · simp [stdVectorNoReallocEraseByIterator, withoutElement]
  · rw [List.concat_eq_append]
    have size : (before ++ removed :: (middle ++ [last])).length = before.length + (middle.length + 2) := by simp
    have notEnd : before.length ≠ before.length + (middle.length + 2) := by omega
    have notLast : decide (before.length = before.length + (middle.length + 2) - 1) = false := by
      simp only [decide_eq_false_iff_not]
      omega
    have swapped : swapElements (before ++ removed :: (middle ++ [last])) before.length
        (before.length + (middle.length + 2) - 1) = (before ++ last :: middle) ++ [removed] := by
      simp [swapElements, List.set_append_right]
    simp only [stdVectorNoReallocEraseByIterator, size, if_neg notEnd, notLast, Bool.false_eq_true, if_false, swapped,
      List.dropLast_concat, withoutElement]
    simp

theorem without_element_perm (before after : List T) (removed : T) :
    (before ++ removed :: after).Perm (removed :: withoutElement before after) := by
  rcases List.eq_nil_or_concat after with rfl | ⟨middle, last, rfl⟩
  · simp [withoutElement]
  · have moved : (middle ++ [last]).Perm (last :: middle) := List.perm_append_comm
    simp only [List.concat_eq_append, withoutElement, List.getLast?_append, List.getLast?_singleton,
      Option.some_or, Option.toList_some, List.dropLast_concat, List.singleton_append]
    exact List.perm_middle.trans (List.Perm.cons removed (List.Perm.append_left before moved))

theorem erase_by_callback_split (findCallback : T → Bool) (before after : List T) (removed : T)
    (found : findCallback removed = true) (first : ∀ element ∈ before, findCallback element = false) :
    stdVectorNoReallocEraseByCallback (before ++ removed :: after) findCallback =
      (true, withoutElement before after) := by
  have position : (before ++ removed :: after).findIdx findCallback = before.length := by
    rw [List.findIdx_append, List.findIdx_eq_length.mpr first, if_neg (Nat.lt_irrefl _),
      List.findIdx_cons, found, cond_true, Nat.zero_add]
  have notEnd : before.length ≠ (before ++ removed :: after).length := by simp
  simp only [stdVectorNoReallocEraseByCallback, position, if_neg notEnd, erase_at_split]

theorem erase_by_callback_absent (findCallback : T → Bool) (container : List T)
    (absent : ∀ element ∈ container, findCallback element = false) :
    stdVectorNoReallocEraseByCallback container findCallback = (false, container) := by
  simp only [stdVectorNoReallocEraseByCallback, List.findIdx_eq_length.mpr absent, if_pos]

theorem erase_by_value_eq [DecidableEq T] (container : List T) (value : T) :
    stdVectorNoReallocEraseByValue container value =
      stdVectorNoReallocEraseByCallback container (fun element => element = value) := rfl

theorem erase_by_callback_perm (findCallback : T → Bool) (container : List T) (hit : T) (present : hit ∈ container)
    (found : findCallback hit = true) :
    ∃ removed rest, stdVectorNoReallocEraseByCallback container findCallback = (true, rest) ∧
      findCallback removed = true ∧ container.Perm (removed :: rest) := by
  rcases find_split findCallback container with absent | ⟨before, removed, after, rfl, taken, first⟩
  · have missed := absent hit present
    rw [found] at missed
    cases missed
  · exact ⟨removed, _, erase_by_callback_split findCallback before after removed taken first, taken,
      without_element_perm before after removed⟩

theorem erase_by_value_perm [DecidableEq T] (container : List T) (value : T) (present : value ∈ container) :
    ∃ rest, stdVectorNoReallocEraseByValue container value = (true, rest) ∧ container.Perm (value :: rest) := by
  obtain ⟨removed, rest, erased, found, shuffled⟩ :=
    erase_by_callback_perm (fun element => decide (element = value)) container value present (by simp)
  obtain rfl : removed = value := by simpa using found
  exact ⟨rest, erased, shuffled⟩

theorem erase_by_value_absent [DecidableEq T] (container : List T) (value : T) (absent : value ∉ container) :
    stdVectorNoReallocEraseByValue container value = (false, container) := by
  rw [erase_by_value_eq]
  apply erase_by_callback_absent
  intro element member
  simpa using fun same : element = value => absent (same ▸ member)

-- What is left when the element of one position is removed: the last element
-- takes its place and nothing else moves.
structure SwappedOut (container : List T) (position : Nat) (removed : T) (rest : List T) : Prop where
  found : container[position]? = some removed
  shuffled : container.Perm (removed :: rest)
  size : rest.length + 1 = container.length
  kept : ∀ index, index + 1 < container.length → index ≠ position → rest[index]? = container[index]?
  moved : position + 1 < container.length → rest[position]? = container.getLast?

theorem without_element_keeps (before after : List T) (removed : T) (index : Nat)
    (inside : index + 1 < (before ++ removed :: after).length) (other : index ≠ before.length) :
    (withoutElement before after)[index]? = (before ++ removed :: after)[index]? := by
  by_cases early : index < before.length
  · simp only [withoutElement, List.getElem?_append_left early]
  · have late : before.length ≤ index := by omega
    obtain ⟨offset, same⟩ : ∃ offset, index - before.length = offset + 1 := ⟨index - before.length - 1, by omega⟩
    simp only [withoutElement, List.getElem?_append_right late, same, List.getElem?_cons_succ]
    rcases List.eq_nil_or_concat after with rfl | ⟨middle, last, rfl⟩
    · simp at inside
      omega
    · have short : offset < middle.length := by
        simp at inside
        omega
      simp [List.getElem?_append_left short]

theorem without_element_moves (before after : List T) (removed : T)
    (inside : before.length + 1 < (before ++ removed :: after).length) :
    (withoutElement before after)[before.length]? = (before ++ removed :: after).getLast? := by
  rcases List.eq_nil_or_concat after with rfl | ⟨middle, last, rfl⟩
  · simp at inside
  · rw [List.concat_eq_append, ← List.cons_append, ← List.append_assoc, List.getLast?_concat]
    simp [withoutElement]

theorem without_element_swapped_out (before after : List T) (removed : T) :
    SwappedOut (before ++ removed :: after) before.length removed (withoutElement before after) := by
  have shuffled := without_element_perm before after removed
  refine ⟨by simp, shuffled, shuffled.length_eq.symm, ?_, ?_⟩
  · exact without_element_keeps before after removed
  · exact without_element_moves before after removed

theorem swapped_out_nodup (container rest : List T) (position : Nat) (removed : T)
    (taken : SwappedOut container position removed rest) (distinct : container.Nodup) :
    rest.Nodup ∧ removed ∉ rest := by
  have both := taken.shuffled.nodup_iff.mp distinct
  rw [List.nodup_cons] at both
  exact ⟨both.2, both.1⟩

theorem erase_by_callback_law (findCallback : T → Bool) (container : List T) :
    ((∀ element ∈ container, findCallback element = false) ∧
      stdVectorNoReallocEraseByCallback container findCallback = (false, container)) ∨
    ∃ position removed rest, stdVectorNoReallocEraseByCallback container findCallback = (true, rest) ∧
      SwappedOut container position removed rest ∧ findCallback removed = true ∧
      ∀ earlier < position, ∀ element, container[earlier]? = some element → findCallback element = false := by
  rcases find_split findCallback container with absent | ⟨before, removed, after, rfl, found, first⟩
  · exact .inl ⟨absent, erase_by_callback_absent findCallback container absent⟩
  · refine .inr ⟨before.length, removed, withoutElement before after, ?_, ?_, found, ?_⟩
    · exact erase_by_callback_split findCallback before after removed found first
    · exact without_element_swapped_out before after removed
    · intro earlier early element there
      rw [List.getElem?_append_left early] at there
      exact first element (List.mem_of_getElem? there)

theorem erase_by_value_removes_first [DecidableEq T] (container : List T) (value : T) :
    ((stdVectorNoReallocEraseByValue container value).1 = true ↔ value ∈ container) ∧
    (value ∈ container → ∃ position, (∀ earlier < position, container[earlier]? ≠ some value) ∧
      SwappedOut container position value (stdVectorNoReallocEraseByValue container value).2) ∧
    (value ∉ container → (stdVectorNoReallocEraseByValue container value).2 = container) ∧
    (container.Nodup → (stdVectorNoReallocEraseByValue container value).2.Nodup ∧
      value ∉ (stdVectorNoReallocEraseByValue container value).2) := by
  rcases erase_by_callback_law (fun element => decide (element = value)) container with
    ⟨absent, erased⟩ | ⟨position, removed, rest, erased, taken, found, first⟩
  · rw [← erase_by_value_eq] at erased
    have missing : value ∉ container := fun member => by simpa using absent value member
    rw [erased]
    refine ⟨?_, fun member => absurd member missing, fun _ => rfl, fun distinct => ⟨distinct, missing⟩⟩
    simpa using missing
  · rw [← erase_by_value_eq] at erased
    obtain rfl : removed = value := by simpa using found
    have present : removed ∈ container := List.mem_of_getElem? taken.found
    rw [erased]
    refine ⟨?_, fun _ => ⟨position, ?_, taken⟩, fun missing => absurd present missing, ?_⟩
    · simpa using present
    · intro earlier early there
      simpa using first earlier early removed there
    · exact swapped_out_nodup container rest position removed taken

theorem erase_by_callback_removes_first (findCallback : T → Bool) (container : List T) :
    ((stdVectorNoReallocEraseByCallback container findCallback).1 = true ↔
      ∃ element ∈ container, findCallback element = true) ∧
    ((∃ element ∈ container, findCallback element = true) → ∃ position removed, findCallback removed = true ∧
      (∀ earlier < position, ∀ element, container[earlier]? = some element → findCallback element = false) ∧
      SwappedOut container position removed (stdVectorNoReallocEraseByCallback container findCallback).2 ∧
      (container.Nodup → removed ∉ (stdVectorNoReallocEraseByCallback container findCallback).2)) ∧
    ((∀ element ∈ container, findCallback element = false) →
      (stdVectorNoReallocEraseByCallback container findCallback).2 = container) ∧
    (container.Nodup → (stdVectorNoReallocEraseByCallback container findCallback).2.Nodup) := by
  rcases erase_by_callback_law findCallback container with
    ⟨absent, erased⟩ | ⟨position, removed, rest, erased, taken, found, first⟩
  · have missing : ¬ ∃ element ∈ container, findCallback element = true := by
      rintro ⟨element, member, hit⟩
      rw [absent element member] at hit
      cases hit
    rw [erased]
    refine ⟨?_, fun hit => absurd hit missing, fun _ => rfl, fun distinct => distinct⟩
    simpa using missing
  · have present : ∃ element ∈ container, findCallback element = true :=
      ⟨removed, List.mem_of_getElem? taken.found, found⟩
    rw [erased]
    refine ⟨?_, fun _ => ⟨position, removed, found, first, taken, ?_⟩, ?_, ?_⟩
    · simpa using present
    · exact fun distinct => (swapped_out_nodup container rest position removed taken distinct).2
    · intro missing
      rw [missing removed (List.mem_of_getElem? taken.found)] at found
      cases found
    · exact fun distinct => (swapped_out_nodup container rest position removed taken distinct).1

theorem swap_and_pop_removes_one_occurrence [DecidableEq T] (container : List T) (value : T) (findCallback : T → Bool) :
    (((stdVectorNoReallocEraseByValue container value).1 = true ↔ value ∈ container) ∧
      (value ∈ container → ∃ position, (∀ earlier < position, container[earlier]? ≠ some value) ∧
        SwappedOut container position value (stdVectorNoReallocEraseByValue container value).2) ∧
      (value ∉ container → (stdVectorNoReallocEraseByValue container value).2 = container) ∧
      (container.Nodup → (stdVectorNoReallocEraseByValue container value).2.Nodup ∧
        value ∉ (stdVectorNoReallocEraseByValue container value).2)) ∧
    (((stdVectorNoReallocEraseByCallback container findCallback).1 = true ↔
        ∃ element ∈ container, findCallback element = true) ∧
      ((∃ element ∈ container, findCallback element = true) → ∃ position removed, findCallback removed = true ∧
        (∀ earlier < position, ∀ element, container[earlier]? = some element → findCallback element = false) ∧
        SwappedOut container position removed (stdVectorNoReallocEraseByCallback container findCallback).2 ∧
        (container.Nodup → removed ∉ (stdVectorNoReallocEraseByCallback container findCallback).2)) ∧
      ((∀ element ∈ container, findCallback element = false) →
        (stdVectorNoReallocEraseByCallback container findCallback).2 = container) ∧
      (container.Nodup → (stdVectorNoReallocEraseByCallback container findCallback).2.Nodup)) :=
  ⟨erase_by_value_removes_first container value, erase_by_callback_removes_first findCallback container⟩

end NetworkWrapper
