import DocumentFilter.CommandLine.Arguments
import DocumentFilter.Fallible

/-!
# Options that do not concern the result

Some options only concern the log and the colours, and for a command that prints no JSON the one
about its layout concerns nothing.  The words of such options can be left out: the command line
still asks for the same.
-/

namespace DocumentFilter
namespace CommandLine

/-! ## Options without the incidental ones -/

/-- The switch does not concern the result; where there is no JSON, its layout does not either. -/
def Switch.isIncidental (noJson : Bool) : Switch → Bool
  | compact => noJson
  | verbose | quiet => true
  | help | version => false

/-- The options that concern the result. -/
def Shared.essential (noJson : Bool) (shared : Shared) : Shared where
  compact := shared.compact && !noJson
  settingsPath? := shared.settingsPath?

theorem Shared.override_essential (noJson : Bool) (before after : Shared) :
    (before.essential noJson).override (after.essential noJson) =
      (before.override after).essential noJson := by
  simp [essential, override, Bool.and_or_distrib_right]

namespace Reading

/-- What has been understood that concerns the result. -/
def essential (noJson : Bool) (reading : Reading) : Reading :=
  { reading with
    before := reading.before.essential noJson
    after := reading.after.essential noJson }

variable {noJson : Bool} {reading next : Reading}

theorem here_essential : (reading.essential noJson).here = reading.here.essential noJson := by
  obtain ⟨before, command?, after, filter?, options⟩ := reading
  cases command? <;> rfl

theorem essential_setHere (shared : Shared) : (reading.setHere shared).essential noJson =
    (reading.essential noJson).setHere (shared.essential noJson) := by
  obtain ⟨before, command?, after, filter?, options⟩ := reading
  cases command? <;> rfl

theorem essential_setHere_of_eq {shared : Shared}
    (h : shared.essential noJson = reading.here.essential noJson) :
    (reading.setHere shared).essential noJson = reading.essential noJson := by
  rw [essential_setHere, h]
  obtain ⟨before, command?, after, filter?, options⟩ := reading
  cases command? <;> rfl

/-! ## One option -/

theorem essential_of_takeSwitch {switch : Switch} (hswitch : switch.isIncidental noJson = true)
    (h : reading.takeSwitch switch = .ok next) :
    next.essential noJson = reading.essential noJson := by
  revert h
  fun_cases takeSwitch reading switch with
  | case1 => rintro ⟨⟩
  | case2 =>
      rintro ⟨⟩
      obtain rfl : noJson = true := hswitch
      refine essential_setHere_of_eq ?_
      simp [Shared.essential]
  | case3 =>
      rintro ⟨⟩
      exact essential_setHere_of_eq rfl
  | case4 => rintro ⟨⟩
  | case5 =>
      rintro ⟨⟩
      exact essential_setHere_of_eq rfl
  | case6 => cases hswitch
  | case7 => cases hswitch
  | case8 => cases hswitch

/-- Any other switch is taken in the same way without the incidental options. -/
theorem takeSwitch_essential {switch : Switch} (hswitch : switch.isIncidental noJson = false) :
    (reading.essential noJson).takeSwitch switch =
      (reading.takeSwitch switch).map (essential noJson) := by
  cases switch with
  | compact =>
      obtain rfl : noJson = false := hswitch
      have hcompact : (reading.here.essential false).compact = reading.here.compact :=
        Bool.and_true _
      rw [takeSwitch, takeSwitch, here_essential, hcompact]
      split
      · rfl
      · rw [Except.map, essential_setHere]
        rfl
  | verbose => cases hswitch
  | quiet => cases hswitch
  | help => rfl
  | version =>
      obtain ⟨before, command?, after, filter?, options⟩ := reading
      cases command? <;> rfl

theorem essential_of_takeSetting {value : String}
    (h : reading.takeSetting .color value = .ok next) :
    next.essential noJson = reading.essential noJson := by
  obtain ⟨color?, _, hnext⟩ := Except.bind_eq_ok_iff.mp h
  cases hnext
  exact essential_setHere_of_eq rfl

theorem map_once {α : Type} (old? new? : Option α) (take : Option α → Reading)
    (change : Reading → Reading) :
    (once old? new? >>= fun value => pure (take value)).map change =
      once old? new? >>= fun value => pure (change (take value)) := by
  cases once old? new? <;> rfl

/-- Any other setting is taken in the same way without the incidental options. -/
theorem takeSetting_essential {setting : Setting} (hsetting : setting ≠ .color) (value : String) :
    (reading.essential noJson).takeSetting setting value =
      (reading.takeSetting setting value).map (essential noJson) := by
  cases setting with
  | color => exact absurd rfl hsetting
  | config =>
      simp only [takeSetting, map_once, here_essential, essential_setHere]
      rfl
  | filter | orderby | top | skip | select =>
      simp only [takeSetting, map_once]
      rfl

/-! ## One word -/

/-- The letter stands for a switch that does not concern the result. -/
def isIncidentalLetter (noJson : Bool) (letter : Char) : Bool :=
  (Switch.ofLetter? letter).any (Switch.isIncidental noJson)

theorem takeLetters_cons_eq_ok_iff {letter : Char} {letters : List Char} :
    reading.takeLetters (letter :: letters) = .ok next ↔
      ∃ switch mid, Switch.ofLetter? letter = some switch ∧ reading.takeSwitch switch = .ok mid ∧
        mid.takeLetters letters = .ok next := by
  rw [takeLetters, List.foldlM_cons]
  refine Except.bind_eq_ok_iff.trans ?_
  cases Switch.ofLetter? letter <;> simp [takeLetters]

/-- Of the letters of a word those that concern the result are enough. -/
theorem takeLetters_essential {letters : List Char} (h : reading.takeLetters letters = .ok next) :
    (reading.essential noJson).takeLetters (letters.filter (!isIncidentalLetter noJson ·)) =
      .ok (next.essential noJson) := by
  induction letters generalizing reading with
  | nil =>
      cases h
      rfl
  | cons letter letters ih =>
      obtain ⟨switch, mid, hswitch, hmid, hnext⟩ := takeLetters_cons_eq_ok_iff.mp h
      have hletters := ih hnext
      cases hincidental : switch.isIncidental noJson with
      | true =>
          rw [List.filter_cons_of_neg (by simp [isIncidentalLetter, hswitch, hincidental]),
            ← essential_of_takeSwitch hincidental hmid]
          exact hletters
      | false =>
          rw [List.filter_cons_of_pos (by simp [isIncidentalLetter, hswitch, hincidental])]
          have htake : (reading.essential noJson).takeSwitch switch = .ok (mid.essential noJson) := by
            rw [takeSwitch_essential hincidental, hmid, Except.map]
          exact takeLetters_cons_eq_ok_iff.mpr ⟨switch, _, hswitch, htake, hletters⟩

theorem takeOperand_essential (word : String) :
    (reading.essential noJson).takeOperand word =
      (reading.takeOperand word).map (essential noJson) := by
  obtain ⟨before, command?, after, filter?, options⟩ := reading
  rcases command? with _ | command
  · rfl
  · cases command <;> cases filter? <;> rfl

theorem takeOperands_cons (word : String) (words : List String) :
    reading.takeOperands (word :: words) =
      (reading.takeOperand word).bind fun mid => mid.takeOperands words := rfl

theorem takeOperands_essential (words : List String) :
    (reading.essential noJson).takeOperands words =
      (reading.takeOperands words).map (essential noJson) := by
  induction words generalizing reading with
  | nil => rfl
  | cons word words ih =>
      rw [takeOperands_cons, takeOperands_cons, takeOperand_essential]
      cases reading.takeOperand word with
      | error => rfl
      | ok mid => exact ih

theorem takePlain_essential {word : String} {rest : List String}
    (h : reading.takePlain word rest = .ok next) (rest' : List String) :
    (reading.essential noJson).takePlain word rest' = .ok (next.essential noJson) := by
  have hcommand : (reading.essential noJson).command? = reading.command? := rfl
  rw [takePlain] at h ⊢
  rw [hcommand]
  split at h
  · rw [if_pos ‹_›, takeOperand_essential, h, Except.map]
  · rw [if_neg ‹_›]
    cases hname : CommandName.ofWord? word with
    | some name =>
        rw [hname] at h
        cases h
        rfl
    | none =>
        rw [hname] at h
        dsimp only at h
        split at h <;> cases h

/-! ## All words -/

/-- Letters as a word in front of other words, if there are any letters. -/
def lettersWord (letters : List Char) (words : List String) : List String :=
  if letters.isEmpty then words else String.ofList ('-' :: letters) :: words

/-- The words that concern the result.  After the mark that ends the options all words do. -/
def essentialWords (noJson : Bool) : List String → List String
  | [] => []
  | word :: rest =>
    match Word.ofText word.toList with
    | .endOfOptions => word :: rest
    | .plain => word :: essentialWords noJson rest
    | .letters letters =>
      lettersWord (letters.filter (!isIncidentalLetter noJson ·)) (essentialWords noJson rest)
    | .long name (some _) =>
      if Setting.ofName? name = some .color then essentialWords noJson rest
      else word :: essentialWords noJson rest
    | .long name none =>
      match Setting.ofName? name, rest with
      | some setting, value :: rest =>
        if setting = .color then essentialWords noJson rest
        else word :: value :: essentialWords noJson rest
      | _, rest =>
        if (Switch.ofName? name).any (Switch.isIncidental noJson) then essentialWords noJson rest
        else word :: essentialWords noJson rest

theorem setting?_essential (name : String) :
    (reading.essential noJson).setting? name = reading.setting? name := rfl

theorem ofName?_of_setting? {name : String} {setting : Setting}
    (h : reading.setting? name = some setting) : Setting.ofName? name = some setting :=
  (Option.filter_eq_some_iff.mp h).1

theorem settingOfName?_of_switch {name : String} {switch : Switch}
    (h : Switch.ofName? name = some switch) : Setting.ofName? name = none := by
  revert h
  fun_cases Switch.ofName? name with
  | case6 => rintro ⟨⟩
  | _ => exact fun _ => rfl

theorem ofText_letters {letter : Char} (hletter : letter ≠ '-') (letters : List Char) :
    Word.ofText ('-' :: letter :: letters) = .letters (letter :: letters) := by
  rw [Word.ofText]
  · exact fun hminus _ => hletter hminus
  · exact hletter

theorem takeAll_lettersWord {letters : List Char} {mid : Reading}
    (h : reading.takeLetters letters = .ok mid) (words : List String) :
    reading.takeAll (lettersWord letters words) = mid.takeAll words := by
  cases letters with
  | nil =>
      cases h
      rfl
  | cons letter letters =>
      obtain ⟨switch, _, hswitch, _⟩ := takeLetters_cons_eq_ok_iff.mp h
      have hletter : letter ≠ '-' := by
        rintro rfl
        cases hswitch
      rw [lettersWord, List.isEmpty_cons, if_neg Bool.false_ne_true]
      simp only [takeAll, String.toList_ofList, ofText_letters hletter, h]
      rfl

theorem bind_takeAll_essential {step step' : Except Stop Reading} {rest words : List String}
    (hstep : ∀ mid, step = .ok mid → step' = .ok (mid.essential noJson))
    (hrest : ∀ mid next, takeAll mid rest = .ok next →
      (mid.essential noJson).takeAll words = .ok (next.essential noJson))
    (h : (step.bind fun mid => mid.takeAll rest) = .ok next) :
    (step'.bind fun mid => mid.takeAll words) = .ok (next.essential noJson) := by
  obtain ⟨mid, hmid, hnext⟩ := Except.bind_eq_ok_iff.mp h
  rw [hstep mid hmid]
  exact hrest mid next hnext

theorem takeAll_essential_of_bind {step : Except Stop Reading} {rest words : List String}
    (hstep : ∀ mid, step = .ok mid → mid.essential noJson = reading.essential noJson)
    (hrest : ∀ mid next, takeAll mid rest = .ok next →
      (mid.essential noJson).takeAll words = .ok (next.essential noJson))
    (h : (step.bind fun mid => mid.takeAll rest) = .ok next) :
    (reading.essential noJson).takeAll words = .ok (next.essential noJson) := by
  obtain ⟨mid, hmid, hnext⟩ := Except.bind_eq_ok_iff.mp h
  rw [← hstep mid hmid]
  exact hrest mid next hnext

/-- A command line is understood in the same way by the words that concern the result. -/
theorem takeAll_essentialWords {words : List String} (h : reading.takeAll words = .ok next) :
    (reading.essential noJson).takeAll (essentialWords noJson words) =
      .ok (next.essential noJson) := by
  revert h
  fun_induction takeAll reading words generalizing next with
  | case1 reading =>
      rintro ⟨⟩
      rfl
  | case2 reading word rest hword =>
      intro h
      simp only [essentialWords, takeAll, hword, takeOperands_essential, h, Except.map]
  | case3 reading word rest hword ih =>
      simp only [essentialWords, takeAll, hword]
      exact bind_takeAll_essential (fun _ hmid => takePlain_essential hmid _) fun mid _ => ih mid
  | case4 reading word rest letters hword ih =>
      intro h
      obtain ⟨mid, hmid, hnext⟩ := Except.bind_eq_ok_iff.mp h
      simp only [essentialWords, hword]
      rw [takeAll_lettersWord (takeLetters_essential hmid)]
      exact ih mid hnext
  | case5 => rintro ⟨⟩
  | case6 reading word rest name value hword setting hsetting ih =>
      simp only [essentialWords, hword, ofName?_of_setting? hsetting, Option.some.injEq]
      split
      · next hcolor =>
          cases hcolor
          exact takeAll_essential_of_bind (fun _ => essential_of_takeSetting) fun mid _ => ih mid
      · next hcolor =>
          simp only [takeAll, hword, setting?_essential, hsetting]
          refine bind_takeAll_essential (fun mid hmid => ?_) fun mid _ => ih mid
          rw [takeSetting_essential hcolor, hmid, Except.map]
  | case7 reading word name hword setting value rest hsetting hvalue ih =>
      simp only [essentialWords, hword, ofName?_of_setting? hsetting]
      split
      · next hcolor =>
          cases hcolor
          exact takeAll_essential_of_bind (fun _ => essential_of_takeSetting) fun mid _ => ih mid
      · next hcolor =>
          simp only [takeAll, hword, setting?_essential, hsetting, hvalue]
          refine bind_takeAll_essential (fun mid hmid => ?_) fun mid _ => ih mid
          rw [takeSetting_essential hcolor, hmid, Except.map]
  | case8 => rintro ⟨⟩
  | case9 reading word name hword switch rest hswitch hsetting ih =>
      simp only [essentialWords, hword, settingOfName?_of_switch hswitch, hswitch, Option.any_some]
      split
      · next hincidental =>
          exact takeAll_essential_of_bind (fun _ => essential_of_takeSwitch hincidental)
            fun mid _ => ih mid
      · next hincidental =>
          simp only [takeAll, hword, setting?_essential, hsetting, hswitch]
          refine bind_takeAll_essential (fun mid hmid => ?_) fun mid _ => ih mid
          rw [takeSwitch_essential (by simpa using hincidental), hmid, Except.map]
  | case10 => rintro ⟨⟩

/-! ## What is asked for -/

theorem shared_essential (environmentPath? : Option String) :
    (reading.essential noJson).shared environmentPath? =
      (reading.shared environmentPath?).map (Shared.essential noJson) := by
  simp only [shared, essential, Shared.override_essential]
  rw [apply_ite (Except.map (Shared.essential noJson))]
  rfl

end Reading

/-- What is asked for that concerns the result. -/
def Invocation.essential (noJson : Bool) (inv : Invocation) : Invocation where
  settingsPath? := inv.settingsPath?
  compact := inv.compact && !noJson
  verbosity := 0
  quiet := false
  color := .auto
  command := inv.command

/-- The words that concern the result ask for the same. -/
theorem Invocation.ofArguments_essentialWords {words : List String}
    {environmentPath? : Option String} {inv : Invocation} (noJson : Bool)
    (h : ofArguments words environmentPath? = .ok inv) :
    ofArguments (Reading.essentialWords noJson words) environmentPath? =
      .ok (inv.essential noJson) := by
  obtain ⟨reading, hreading, hrest⟩ := Except.bind_eq_ok_iff.mp h
  obtain ⟨command, hcommand, hrest⟩ := Except.bind_eq_ok_iff.mp hrest
  obtain ⟨shared, hshared, hinv⟩ := Except.bind_eq_ok_iff.mp hrest
  cases hinv
  have hwords : ({} : Reading).takeAll (Reading.essentialWords noJson words) =
      .ok (reading.essential noJson) := Reading.takeAll_essentialWords hreading
  have hessential : (reading.essential noJson).shared environmentPath? =
      .ok (shared.essential noJson) := by
    rw [Reading.shared_essential, hshared, Except.map]
  refine Except.bind_eq_ok_iff.mpr ⟨_, hwords, Except.bind_eq_ok_iff.mpr ⟨command, hcommand, ?_⟩⟩
  exact Except.bind_eq_ok_iff.mpr ⟨_, hessential, rfl⟩

example : Reading.essentialWords false ["-vc", "query", "--color", "never", "--filter", "a", "-q"] =
    ["-c", "query", "--filter", "a"] := by with_unfolding_all rfl

end CommandLine
end DocumentFilter
