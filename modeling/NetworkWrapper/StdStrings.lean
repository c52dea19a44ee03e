import Mathlib.Data.List.Infix

set_option autoImplicit false

-- std::basic_string over any kind of character. A position is none for npos.
namespace StdString

variable {T : Type}

theorem last_split (text : List T) (character : T) (present : character ∈ text) :
    ∃ before after, text = before ++ character :: after ∧ character ∉ after := by
  obtain ⟨back, front, split, first⟩ := List.eq_append_cons_of_mem (List.mem_reverse.mpr present)
  refine ⟨front.reverse, back.reverse, ?_, fun member => first (List.mem_reverse.mp member)⟩
  rw [← List.reverse_reverse text, split]
  simp

theorem infix_after_outside (sought outside text : List T) (something : sought ≠ [])
    (apart : ∀ character ∈ outside, character ∉ sought) : sought <:+: outside ++ text ↔ sought <:+: text := by
  induction outside with
  | nil => rfl
  | cons head rest ih =>
      obtain ⟨foreign, others⟩ := List.forall_mem_cons.mp apart
      have notHere : ¬ sought <+: head :: (rest ++ text) := by
        rw [List.prefix_cons_iff]
        rintro (nothing | ⟨tail, rfl, _⟩)
        · exact something nothing
        · exact foreign List.mem_cons_self
      rw [List.cons_append, List.infix_cons_iff, ih others, or_iff_right notHere]

theorem infix_before_outside (sought text outside : List T) (something : sought ≠ [])
    (apart : ∀ character ∈ outside, character ∉ sought) : sought <:+: text ++ outside ↔ sought <:+: text := by
  have reversed := infix_after_outside sought.reverse outside.reverse text.reverse (by simpa using something)
    (by simpa using apart)
  rw [← List.reverse_append, List.reverse_infix, List.reverse_infix] at reversed
  exact reversed

variable [DecidableEq T]

def findLastOf : List T → T → Option Nat
  | [], _ => none
  | head :: rest, character =>
      match findLastOf rest character with
      | some position => some (position + 1)
      | none => if head = character then some 0 else none

def find : List T → List T → Option Nat
  | [], sought => if sought = [] then some 0 else none
  | head :: rest, sought => if sought <+: head :: rest then some 0 else (find rest sought).map (· + 1)

def substr (text : List T) (position : Option Nat) : Except String (List T) :=
  match position with
  | none => .error "std::out_of_range"
  | some position => if position ≤ text.length then .ok (text.drop position) else .error "std::out_of_range"

theorem find_last_of_absent (text : List T) (character : T) (absent : character ∉ text) :
    findLastOf text character = none := by
  induction text with
  | nil => rfl
  | cons head rest ih =>
      obtain ⟨other, later⟩ := not_or.mp (mt List.mem_cons.mpr absent)
      simp only [findLastOf, ih later, if_neg (Ne.symm other)]

theorem find_last_of_split (before after : List T) (character : T) (last : character ∉ after) :
    findLastOf (before ++ character :: after) character = some before.length := by
  induction before with
  | nil => simp [findLastOf, find_last_of_absent after character last]
  | cons head rest ih => simp [findLastOf, ih]

theorem substr_last (before after : List T) (character : T) (last : character ∉ after) :
    substr (before ++ character :: after) (findLastOf (before ++ character :: after) character) =
      .ok (character :: after) := by
  simp [substr, find_last_of_split before after character last]

theorem substr_last_absent (text : List T) (character : T) (absent : character ∉ text) :
    substr text (findLastOf text character) = .error "std::out_of_range" := by
  simp only [substr, find_last_of_absent text character absent]

theorem find_iff (text sought : List T) : (find text sought).isSome = true ↔ sought <:+: text := by
  induction text with
  | nil => simp [find, List.infix_nil]
  | cons head rest ih =>
      rw [List.infix_cons_iff, ← ih, find]
      by_cases here : sought <+: head :: rest
      · simp [here]
      · simp [here]

def splitAtEach (separator : T) : List T → List (List T)
  | [] => [[]]
  | head :: rest =>
      if head = separator then [] :: splitAtEach separator rest
      else
        match splitAtEach separator rest with
        | [] => [[head]]
        | first :: others => (head :: first) :: others

theorem split_first (separator : T) (text : List T) :
    ∃ others, splitAtEach separator text = text.takeWhile (· ≠ separator) :: others := by
  induction text with
  | nil => exact ⟨[], rfl⟩
  | cons head rest ih =>
      obtain ⟨others, split⟩ := ih
      by_cases same : head = separator
      · exact ⟨splitAtEach separator rest, by simp [splitAtEach, same]⟩
      · exact ⟨others, by simp [splitAtEach, same, split]⟩

theorem split_whole (separator : T) (text : List T) (apart : separator ∉ text) : splitAtEach separator text = [text] := by
  induction text with
  | nil => rfl
  | cons head rest ih =>
      obtain ⟨other, later⟩ := not_or.mp (mt List.mem_cons.mpr apart)
      simp only [splitAtEach, if_neg (Ne.symm other), ih later]

theorem split_part (separator : T) (part rest : List T) (apart : separator ∉ part) :
    splitAtEach separator (part ++ separator :: rest) = part :: splitAtEach separator rest := by
  induction part with
  | nil => simp [splitAtEach]
  | cons head tail ih =>
      obtain ⟨other, later⟩ := not_or.mp (mt List.mem_cons.mpr apart)
      simp only [List.cons_append, splitAtEach, if_neg (Ne.symm other), ih later]

theorem drop_to_separator (separator : T) (text : List T) :
    text.dropWhile (· ≠ separator) = [] ∨ ∃ rest, text.dropWhile (· ≠ separator) = separator :: rest := by
  induction text with
  | nil => exact .inl rfl
  | cons head rest ih =>
      by_cases same : head = separator
      · exact .inr ⟨rest, by simp [same]⟩
      · simpa [same] using ih

theorem prefix_before (separator : T) (sought text : List T) (apart : separator ∉ sought) :
    sought <+: text ↔ sought <+: text.takeWhile (· ≠ separator) := by
  constructor
  · rintro ⟨rest, rfl⟩
    have kept : ∀ character ∈ sought, decide (character ≠ separator) = true := by
      intro character member
      simp only [ne_eq, decide_not, Bool.not_eq_true', decide_eq_false_iff_not]
      rintro rfl
      exact apart member
    rw [List.takeWhile_append_of_pos kept]
    exact List.prefix_append _ _
  · exact fun found => found.trans (List.takeWhile_prefix _)

theorem infix_split (separator : T) (sought text : List T) (apart : separator ∉ sought) :
    sought <:+: text ↔ ∃ element ∈ splitAtEach separator text, sought <:+: element := by
  induction text with
  | nil => simp [splitAtEach]
  | cons head rest ih =>
      obtain ⟨others, split⟩ := split_first separator rest
      by_cases same : head = separator
      · have here : sought <+: head :: rest ↔ sought <:+: [] := by
          rw [prefix_before separator sought _ apart]
          simp [same]
        rw [List.infix_cons_iff, here, ih]
        simp [splitAtEach, same]
      · have here : sought <+: head :: rest ↔ sought <+: head :: rest.takeWhile (· ≠ separator) := by
          rw [prefix_before separator sought _ apart]
          simp [same]
        simp only [splitAtEach, if_neg same, split] at ih ⊢
        simp only [List.exists_mem_cons_iff] at ih ⊢
        rw [List.infix_cons_iff, List.infix_cons_iff, here, ih, or_assoc]

end StdString
