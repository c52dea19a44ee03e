import Mathlib.Data.List.TakeWhile

set_option autoImplicit false

namespace NetworkWrapper

-- The UTF-16 code units of a JavaScript string.
abbrev JsText := List UInt16

def jsText (ascii : String) : JsText := ascii.toList.map fun letter => UInt16.ofNat letter.toNat

-- A JavaScript number that is not negative, idealised: finite values are exact,
-- where a double is rounded, and infinite from 309 digits on.
inductive JsNumber where
  | finite (value : Nat)
  | infinity
  | notANumber
deriving DecidableEq

def JsNumber.lessOrEqual : JsNumber → JsNumber → Bool
  | .notANumber, _ => false
  | _, .notANumber => false
  | _, .infinity => true
  | .infinity, .finite _ => false
  | .finite first, .finite second => first ≤ second

def isDigit (unit : UInt16) : Bool := 48 ≤ unit ∧ unit ≤ 57

-- parseFloat of a text of digits.
def parseFloat (digits : JsText) : JsNumber :=
  match digits with
  | [] => .notANumber
  | _ :: _ => .finite (digits.foldl (fun value unit => 10 * value + (unit.toNat - 48)) 0)

-- Math.floor((current / total) * 100)
def percentOf (current total : JsNumber) : JsNumber :=
  match current, total with
  | .finite current, .finite total =>
      if total = 0 then
        if current = 0 then .notANumber else .infinity
      else .finite (100 * current / total)
  | .finite _, .infinity => .finite 0
  | .infinity, .finite _ => .infinity
  | _, _ => .notANumber

def downloadingData : JsText := jsText "Downloading data... ("

-- /Downloading data\.\.\. \(([0-9]*)\/([0-9]*)\)/ at the start of the text. What
-- follows each group is no digit, so a greedy group never gives anything back.
def captureHere (text : JsText) : Option (JsText × JsText) :=
  if downloadingData <+: text then
    let opened := text.drop downloadingData.length
    match opened.dropWhile isDigit with
    | [] => none
    | slash :: divided =>
        if slash = 47 then
          match divided.dropWhile isDigit with
          | [] => none
          | close :: _ =>
              if close = 41 then some (opened.takeWhile isDigit, divided.takeWhile isDigit) else none
        else none
  else none

-- RegExp.exec without the global flag: the leftmost match.
def downloadingDataRegExpExec : JsText → Option (JsText × JsText)
  | [] => captureHere []
  | unit :: rest =>
      match captureHere (unit :: rest) with
      | some capture => some capture
      | none => downloadingDataRegExpExec rest

structure Loader where
  lastProgressLevel : JsNumber
  statusLines : List JsText
deriving DecidableEq

def newLoader : Loader := ⟨.finite 0, []⟩

def statusPrefix : JsText := jsText "[JS][wasm][status] "

-- Beside the loader, what the call gave to onProgress.
def setStatus (loader : Loader) (text : JsText) : Loader × Option JsNumber :=
  if text = [] then (loader, none)
  else
    match downloadingDataRegExpExec text with
    | none => ({ loader with statusLines := loader.statusLines ++ [statusPrefix ++ text] }, none)
    | some (current, total) =>
        let percent := percentOf (parseFloat current) (parseFloat total)
        if loader.lastProgressLevel.lessOrEqual percent then (loader, none)
        else ({ loader with lastProgressLevel := percent }, some percent)

def setStatuses : Loader → List JsText → Loader × List (Option JsNumber)
  | loader, [] => (loader, [])
  | loader, text :: rest =>
      let called := setStatus loader text
      let later := setStatuses called.1 rest
      (later.1, called.2 :: later.2)

def progressReports (texts : List JsText) : List (Option JsNumber) := (setStatuses newLoader texts).2

def MatchesHere (text current total : JsText) : Prop :=
  (∀ unit ∈ current, isDigit unit = true) ∧ (∀ unit ∈ total, isDigit unit = true) ∧
    ∃ after, text = downloadingData ++ (current ++ 47 :: (total ++ 41 :: after))

theorem capture_here_iff (text current total : JsText) :
    captureHere text = some (current, total) ↔ MatchesHere text current total := by
  constructor
  · intro captured
    simp only [captureHere] at captured
    split at captured
    · rename_i begins
      obtain ⟨opened, rfl⟩ := begins
      rw [List.drop_left] at captured
      have openedSplit := List.takeWhile_append_dropWhile (p := isDigit) (l := opened)
      split at captured
      · cases captured
      · rename_i slash divided rest
        split at captured
        · rename_i isSlash
          split at captured
          · cases captured
          · rename_i close after ending
            split at captured
            · rename_i isClose
              have dividedSplit := List.takeWhile_append_dropWhile (p := isDigit) (l := divided)
              obtain ⟨rfl, rfl⟩ : opened.takeWhile isDigit = current ∧ divided.takeWhile isDigit = total := by
                simpa using captured
              refine ⟨fun unit member => List.mem_takeWhile_imp member,
                fun unit member => List.mem_takeWhile_imp member, after, ?_⟩
              rw [ending, isClose] at dividedSplit
              rw [rest, isSlash] at openedSplit
              rw [dividedSplit, openedSplit]
            · cases captured
        · cases captured
    · cases captured
  · rintro ⟨currentDigits, totalDigits, after, rfl⟩
    have slash : isDigit 47 = false := by decide
    have close : isDigit 41 = false := by decide
    simp only [captureHere, List.prefix_append, if_true, List.drop_left,
      List.dropWhile_append_of_pos currentDigits, List.takeWhile_append_of_pos currentDigits,
      List.dropWhile_cons_of_neg (by simp [slash] : ¬ isDigit 47 = true),
      List.takeWhile_cons_of_neg (by simp [slash] : ¬ isDigit 47 = true),
      List.dropWhile_append_of_pos totalDigits, List.takeWhile_append_of_pos totalDigits,
      List.dropWhile_cons_of_neg (by simp [close] : ¬ isDigit 41 = true),
      List.takeWhile_cons_of_neg (by simp [close] : ¬ isDigit 41 = true), List.append_nil]

theorem exec_iff (text current total : JsText) :
    downloadingDataRegExpExec text = some (current, total) ↔
      ∃ before rest, text = before ++ rest ∧ MatchesHere rest current total ∧
        ∀ earlier later, text = earlier ++ later → earlier.length < before.length → captureHere later = none := by
  induction text with
  | nil =>
      have nothing : captureHere [] = none := by decide
      simp only [downloadingDataRegExpExec, nothing]
      constructor
      · intro captured
        cases captured
      · rintro ⟨before, rest, split, matched, _⟩
        obtain ⟨_, rfl⟩ := List.append_eq_nil_iff.mp split.symm
        rw [← capture_here_iff, nothing] at matched
        exact matched
  | cons unit tail ih =>
      cases found : captureHere (unit :: tail) with
      | some capture =>
          simp only [downloadingDataRegExpExec, found]
          constructor
          · rintro captured
            refine ⟨[], unit :: tail, rfl, (capture_here_iff _ _ _).mp (found.trans captured), ?_⟩
            intro earlier later _ early
            exact absurd early (Nat.not_lt_zero _)
          · rintro ⟨before, rest, split, matched, first⟩
            cases before with
            | nil => exact found.symm.trans ((capture_here_iff _ _ _).mpr (split ▸ matched))
            | cons head front =>
                have missed := first [] (unit :: tail) rfl (Nat.succ_pos _)
                rw [found] at missed
                cases missed
      | none =>
          simp only [downloadingDataRegExpExec, found]
          rw [ih]
          constructor
          · rintro ⟨before, rest, rfl, matched, first⟩
            refine ⟨unit :: before, rest, rfl, matched, ?_⟩
            intro earlier later split early
            cases earlier with
            | nil =>
                rw [List.nil_append] at split
                exact split ▸ found
            | cons head front =>
                obtain ⟨_, split⟩ := List.cons_eq_cons.mp split
                exact first front later split (Nat.lt_of_succ_lt_succ early)
          · rintro ⟨before, rest, split, matched, first⟩
            cases before with
            | nil =>
                rw [List.nil_append] at split
                rw [← capture_here_iff, ← split] at matched
                exact absurd (found.symm.trans matched) (by simp)
            | cons head front =>
                obtain ⟨rfl, rfl⟩ := List.cons_eq_cons.mp split
                refine ⟨front, rest, rfl, matched, ?_⟩
                intro earlier later same early
                exact first (unit :: earlier) later (by rw [same, List.cons_append]) (Nat.succ_lt_succ early)

def percentage (text : JsText) : Option Nat :=
  match downloadingDataRegExpExec text with
  | none => none
  | some (current, total) =>
      match parseFloat current, parseFloat total with
      | .finite current, .finite total => if total = 0 then none else some (100 * current / total)
      | _, _ => none

-- What the reports are meant to be: the records among the percentages, each with
-- the text it came with.
def recordReports : List Nat → List JsText → List (Option JsNumber)
  | _, [] => []
  | seen, text :: rest =>
      match percentage text with
      | none => none :: recordReports seen rest
      | some percent =>
          (if ∀ earlier ∈ seen, earlier < percent then some (.finite percent) else none) ::
            recordReports (percent :: seen) rest

-- A download text that is no occasion for a report, and for which the code makes none.
def Uneventful (text : JsText) : Prop :=
  ∀ current total, downloadingDataRegExpExec text = some (current, total) →
    ∃ loaded expected, parseFloat current = .finite loaded ∧ parseFloat total = .finite expected ∧
      (100 * loaded < expected ∨ (expected = 0 ∧ 0 < loaded))

theorem parse_float_cases (digits : JsText) : parseFloat digits = .notANumber ∨ ∃ value, parseFloat digits = .finite value := by
  cases digits with
  | nil => exact .inl rfl
  | cons unit rest => exact .inr ⟨_, rfl⟩

theorem set_status_captured (loader : Loader) (text current total : JsText)
    (captured : downloadingDataRegExpExec text = some (current, total)) :
    setStatus loader text =
      if loader.lastProgressLevel.lessOrEqual (percentOf (parseFloat current) (parseFloat total)) then (loader, none)
      else ({ loader with lastProgressLevel := percentOf (parseFloat current) (parseFloat total) },
        some (percentOf (parseFloat current) (parseFloat total))) := by
  have written : text ≠ [] := by
    rintro rfl
    have nothing : downloadingDataRegExpExec [] = none := by decide
    rw [nothing] at captured
    cases captured
  simp only [setStatus, if_neg written, captured]

theorem set_status_fresh (loader : Loader) (text : JsText) (fresh : loader.lastProgressLevel = .finite 0) :
    ((setStatus loader text).1.lastProgressLevel = .finite 0 ∧ (setStatus loader text).2 = none) ∨
    (setStatus loader text).2 = some .notANumber ∧ percentage text = none ∧ ¬ Uneventful text := by
  cases captured : downloadingDataRegExpExec text with
  | none =>
      left
      simp only [setStatus, captured]
      split
      · exact ⟨fresh, rfl⟩
      · exact ⟨fresh, rfl⟩
  | some capture =>
      obtain ⟨current, total⟩ := capture
      rw [set_status_captured loader text current total captured, fresh]
      cases level : percentOf (parseFloat current) (parseFloat total) with
      | finite percent => exact .inl ⟨fresh, rfl⟩
      | infinity => exact .inl ⟨fresh, rfl⟩
      | notANumber =>
          refine .inr ⟨rfl, ?_, ?_⟩
          · simp only [percentage, captured]
            split
            · rename_i loaded expected first second
              rw [first, second] at level
              simp only [percentOf] at level
              split at level
              · rename_i nothing
                simp only [if_pos nothing]
              · cases level
            · rfl
          · intro quiet
            obtain ⟨loaded, expected, first, second, small⟩ := quiet current total captured
            rw [first, second] at level
            simp only [percentOf] at level
            split at level
            · split at level
              · omega
              · cases level
            · cases level

theorem uneventful_percentage (text : JsText) (quiet : Uneventful text) :
    percentage text = none ∨ percentage text = some 0 := by
  cases captured : downloadingDataRegExpExec text with
  | none => exact .inl (by simp only [percentage, captured])
  | some capture =>
      obtain ⟨loaded, expected, first, second, small⟩ := quiet capture.1 capture.2 captured
      simp only [percentage, captured, first, second]
      split
      · exact .inl rfl
      · have below : 100 * loaded < expected := by omega
        rw [Nat.div_eq_of_lt below]
        exact .inr rfl

theorem eventful_percentage (text : JsText) (eventful : ¬ Uneventful text) (loader : Loader)
    (fresh : loader.lastProgressLevel = .finite 0) (silent : (setStatus loader text).2 = none) :
    ∃ percent, 0 < percent ∧ percentage text = some percent := by
  simp only [Uneventful, not_forall] at eventful
  obtain ⟨current, total, captured, refused⟩ := eventful
  rw [set_status_captured loader text current total captured, fresh] at silent
  rcases parse_float_cases current with first | ⟨loaded, first⟩
  · rw [first] at silent
    simp [percentOf, JsNumber.lessOrEqual] at silent
  · rcases parse_float_cases total with second | ⟨expected, second⟩
    · rw [first, second] at silent
      simp [percentOf, JsNumber.lessOrEqual] at silent
    · have large : ¬ (100 * loaded < expected ∨ (expected = 0 ∧ 0 < loaded)) :=
        fun small => refused ⟨loaded, expected, first, second, small⟩
      have measured : expected ≠ 0 := by
        rintro rfl
        obtain rfl : loaded = 0 := by omega
        rw [first, second] at silent
        simp [percentOf, JsNumber.lessOrEqual] at silent
      refine ⟨100 * loaded / expected, Nat.div_pos (by omega) (by omega), ?_⟩
      simp only [percentage, captured, first, second, if_neg measured]

theorem reports_are_records_iff (texts : List JsText) (loader : Loader) (seen : List Nat)
    (fresh : loader.lastProgressLevel = .finite 0) (zeros : 0 ∈ seen ∧ ∀ earlier ∈ seen, earlier = 0) :
    (setStatuses loader texts).2 = recordReports seen texts ↔ ∀ text ∈ texts, Uneventful text := by
  induction texts generalizing loader seen with
  | nil => simp [setStatuses, recordReports]
  | cons text rest ih =>
      simp only [setStatuses, List.forall_mem_cons]
      rcases set_status_fresh loader text fresh with ⟨kept, silent⟩ | ⟨reported, unmeasured, eventful⟩
      · rw [silent]
        by_cases quiet : Uneventful text
        · rcases uneventful_percentage text quiet with unmeasured | zero
          · simp only [recordReports, unmeasured, List.cons.injEq, true_and, quiet]
            exact ih _ seen kept zeros
          · have notRecord : ¬ ∀ earlier ∈ seen, earlier < 0 := fun record => Nat.lt_irrefl 0 (record 0 zeros.1)
            simp only [recordReports, zero, if_neg notRecord, List.cons.injEq, true_and, quiet]
            exact ih _ (0 :: seen) kept ⟨List.mem_cons_self, List.forall_mem_cons.mpr ⟨rfl, zeros.2⟩⟩
        · obtain ⟨percent, positive, measured⟩ := eventful_percentage text quiet loader fresh silent
          have record : ∀ earlier ∈ seen, earlier < percent := by
            intro earlier member
            rw [zeros.2 earlier member]
            exact positive
          simp [recordReports, measured, if_pos record, quiet]
      · simp [recordReports, reported, unmeasured, eventful]

theorem progress_reports_are_records_iff (texts : List JsText) :
    progressReports texts = recordReports [0] texts ↔ ∀ text ∈ texts, Uneventful text :=
  reports_are_records_iff texts newLoader [0] rfl ⟨List.mem_singleton_self 0, fun _ => List.mem_singleton.mp⟩

theorem first_percentage_is_not_reported :
    progressReports [jsText "Downloading data... (50/100)"] = [none] ∧
    ¬ ∀ texts, progressReports texts = recordReports [0] texts := by
  refine ⟨by decide, fun always => ?_⟩
  have silent := always [jsText "Downloading data... (50/100)"]
  revert silent
  decide

theorem status_lines_logged (loader : Loader) (texts : List JsText) :
    (setStatuses loader texts).1.statusLines = loader.statusLines ++
      (texts.filter fun text => text ≠ [] ∧ downloadingDataRegExpExec text = none).map (statusPrefix ++ ·) := by
  induction texts generalizing loader with
  | nil => simp [setStatuses]
  | cons text rest ih =>
      simp only [setStatuses]
      rw [ih]
      cases captured : downloadingDataRegExpExec text with
      | none =>
          by_cases written : text = []
          · simp [setStatus, written]
          · simp [setStatus, written, captured]
      | some capture =>
          have kept : (setStatus loader text).1.statusLines = loader.statusLines := by
            rw [set_status_captured loader text capture.1 capture.2 captured]
            split
            · rfl
            · rfl
          simp [kept, captured]

end NetworkWrapper
