import QueryGate.Proofs.Bytes
import QueryGate.Proofs.Consistency

/-!
# Refused changes

A change passes several stages: the gate must be open, rule text must not be too long and must be
text, it must be read without error, and the rules asked for must be fit to come into force. The
first stage that fails gives the error, and nothing of the stages before it is left behind: the gate
is as it was, so a session goes on as if the refused change had not been asked for.
-/

namespace QueryGate.Gate

open QueryGate.Text

/-! ## Why a change is refused -/

/-- The bytes of rule text that a change brings. -/
def Change.contents? : Change → Option (List UInt8)
  | loadText text => some (bytes text)
  | loadFile contents => contents
  | _ => none

/-- The pattern for which a change adds rules. -/
def Change.pattern? : Change → Option String
  | addScope pattern _ => some pattern
  | _ => none

/-- The rule text that a change brings, if it is not too long. -/
structure Brings (gate : Gate) (change : Change) (text : String) : Prop where
  /-- The text is that of the bytes. -/
  contents_eq : change.contents? = some (bytes text)
  /-- There are not too many bytes. -/
  length_le : text.utf8ByteSize ≤ gate.limits.maxRulesSize

/-- The rules that a change asks the gate to declare. -/
inductive Asks (gate : Gate) : Change → Policy → Prop where
  /-- The rules of a text. -/
  | text {change : Change} {text : String} {policy : Policy} (hbrings : gate.Brings change text)
      (hparse : Policy.parse gate.plugins text = .ok policy) : Asks gate change policy
  /-- The declared rules with another one for every path. -/
  | rule (rule : Rule) : Asks gate (.addRule rule) (gate.declared.declare rule)
  /-- The declared rules with others for a pattern that is not blank. -/
  | scope {pattern : String} (params : List Rule)
      (hpattern : (trim pattern.toList).isEmpty = false) :
      Asks gate (.addScope pattern params)
        (gate.declared.declareScope (String.ofList (Pattern.normalize pattern.toList)) params)

/-- The reasons for which a change is refused. -/
inductive Refusal (gate : Gate) (change : Change) : Error → Prop where
  /-- The pattern is blank. A closed gate looks at this too. -/
  | blankPattern {pattern : String} (hpattern : change.pattern? = some pattern)
      (hblank : (trim pattern.toList).isEmpty = true) :
      Refusal gate change (.invalidRule .emptyPattern)
  /-- The gate is closed. -/
  | closed (hclosed : gate.isOpen = false)
      (hpattern : ∀ pattern, change.pattern? = some pattern →
        (trim pattern.toList).isEmpty = false) :
      Refusal gate change .closed
  /-- There is no file. -/
  | missing (hopen : gate.isOpen = true) (hfile : change = .loadFile none) :
      Refusal gate change .file
  /-- Rule text is too long, whether it is text or not. -/
  | tooLarge {contents : List UInt8} (hopen : gate.isOpen = true)
      (hcontents : change.contents? = some contents)
      (hlarge : gate.limits.maxRulesSize < contents.length) :
      Refusal gate change (.rulesTooLarge contents.length gate.limits.maxRulesSize)
  /-- A file is not text. -/
  | notText {contents : List UInt8} (hopen : gate.isOpen = true)
      (hcontents : change.contents? = some contents)
      (hsize : contents.length ≤ gate.limits.maxRulesSize) (htext : ofBytes? contents = none) :
      Refusal gate change .file
  /-- Rule text is wrong, or a plugin refuses a part of it. -/
  | unread {text : String} {error : Error} (hopen : gate.isOpen = true)
      (hbrings : gate.Brings change text)
      (hparse : Policy.parse gate.plugins text = .error error) : Refusal gate change error
  /-- The rules asked for cannot come into force. -/
  | unfit {policy : Policy} {error : Error} (hopen : gate.isOpen = true)
      (hasks : gate.Asks change policy) (hcheck : policy.check = .error error) :
      Refusal gate change error

variable {gate : Gate} {change : Change} {error : Error}

/-- An open gate installs a policy unless the policy fails its checks. -/
theorem install_eq_error_iff (hopen : gate.isOpen = true) {policy : Policy} :
    (gate.install policy).1 = .error error ↔ policy.check = .error error := by
  unfold install Generation.prepare
  rw [if_pos hopen]
  cases policy.check <;> simp [bind, Except.bind, pure, Except.pure]

/-- Loading a file with the bytes of a text is loading the text. -/
theorem loadFile_bytes (gate : Gate) (text : String) :
    gate.loadFile (some (bytes text)) = gate.loadText text := by
  unfold loadFile
  dsimp only
  rw [length_bytes, ofBytes?_bytes]
  unfold loadText
  dsimp only
  cases gate.isOpen with
  | false => rfl
  | true =>
    by_cases hlarge : gate.limits.maxRulesSize < text.utf8ByteSize
    · rw [if_pos rfl, if_pos rfl, if_pos hlarge, if_pos hlarge]
    · rw [if_pos rfl, if_pos rfl, if_neg hlarge, if_neg hlarge]

/-- A change that brings rule text is the loading of a file with its bytes. -/
theorem apply_of_contents {contents : List UInt8} (hcontents : change.contents? = some contents) :
    gate.apply change = gate.loadFile (some contents) := by
  cases change with
  | loadText text =>
    obtain rfl := Option.some.inj hcontents
    exact (gate.loadFile_bytes text).symm
  | loadFile given =>
    obtain rfl : given = some contents := hcontents
    rfl
  | _ => cases hcontents

/-- Rules for a blank pattern are refused. -/
theorem apply_of_blank {pattern : String} (hpattern : change.pattern? = some pattern)
    (hblank : (trim pattern.toList).isEmpty = true) :
    (gate.apply change).1 = .error (.invalidRule .emptyPattern) := by
  cases change with
  | addScope given params =>
    obtain rfl := Option.some.inj hpattern
    unfold apply addScope
    dsimp only
    rw [if_pos hblank]
  | _ => cases hpattern

/-- A closed gate refuses every change. -/
theorem apply_of_closed (hclosed : gate.isOpen = false)
    (hpattern : ∀ pattern, change.pattern? = some pattern →
      (trim pattern.toList).isEmpty = false) :
    (gate.apply change).1 = .error .closed := by
  have hinstall : ∀ policy, (gate.install policy).1 = .error .closed := by
    intro policy
    unfold install
    rw [hclosed]
    rfl
  cases change with
  | addRule rule => exact hinstall _
  | addScope pattern params =>
    change (gate.addScope pattern params).1 = _
    unfold addScope
    rw [hpattern pattern rfl]
    exact hinstall _
  | clear => exact hinstall _
  | _ => simp [apply, loadText, loadFile, setCallback, reset, addPlugin, hclosed]

/-- An open gate reads the text that a change brings. -/
theorem apply_of_brings {text : String} (hopen : gate.isOpen = true)
    (hbrings : gate.Brings change text) :
    gate.apply change =
      match Policy.parse gate.plugins text with
      | .error error => (.error error, gate)
      | .ok policy => gate.install policy := by
  rw [apply_of_contents hbrings.contents_eq, loadFile_bytes]
  unfold loadText
  cases Policy.parse gate.plugins text <;>
    rw [if_pos hopen, if_neg (Nat.not_lt.mpr hbrings.length_le)]

/-- An open gate installs the rules that a change asks for. -/
theorem apply_of_asks {policy : Policy} (hopen : gate.isOpen = true)
    (hasks : gate.Asks change policy) : gate.apply change = gate.install policy := by
  cases hasks with
  | text hbrings hparse => rw [apply_of_brings hopen hbrings, hparse]
  | rule rule => rfl
  | scope params hpattern =>
    change gate.addScope _ params = _
    unfold addScope
    rw [hpattern]
    rfl

/-- An open gate has a reason to refuse a change if the rules that it asks for are refused. -/
theorem refusal_of_asks {policy : Policy} (hopen : gate.isOpen = true)
    (hasks : gate.Asks change policy) (hrefused : (gate.apply change).1 = .error error) :
    gate.Refusal change error := by
  rw [apply_of_asks hopen hasks] at hrefused
  exact .unfit hopen hasks ((install_eq_error_iff hopen).mp hrefused)

/-- An open gate has a reason to refuse rule text: it is too long, it is no text, it cannot be read,
or its rules are refused. -/
theorem refusal_of_contents {contents : List UInt8} (hopen : gate.isOpen = true)
    (hcontents : change.contents? = some contents)
    (hrefused : (gate.apply change).1 = .error error) : gate.Refusal change error := by
  have hloaded := hrefused
  rw [apply_of_contents hcontents] at hloaded
  unfold loadFile at hloaded
  dsimp only at hloaded
  rw [if_pos hopen] at hloaded
  by_cases hlarge : gate.limits.maxRulesSize < contents.length
  · rw [if_pos hlarge] at hloaded
    obtain rfl := Except.error.inj hloaded
    exact .tooLarge hopen hcontents hlarge
  rw [if_neg hlarge] at hloaded
  cases htext : ofBytes? contents with
  | none =>
    rw [htext] at hloaded
    obtain rfl := Except.error.inj hloaded
    exact .notText hopen hcontents (Nat.not_lt.mp hlarge) htext
  | some text =>
    obtain rfl := ofBytes?_eq_some_iff.mp htext
    have hbrings : gate.Brings change text := ⟨hcontents, Nat.not_lt.mp hlarge⟩
    cases hparse : Policy.parse gate.plugins text with
    | error cause =>
      rw [apply_of_brings hopen hbrings, hparse] at hrefused
      obtain rfl := Except.error.inj hrefused
      exact .unread hopen hbrings hparse
    | ok policy => exact refusal_of_asks hopen (.text hbrings hparse) hrefused

/-- A change is refused with an error exactly when there is that reason to refuse it. -/
theorem apply_eq_error_iff : (gate.apply change).1 = .error error ↔ gate.Refusal change error := by
  constructor
  · intro hrefused
    by_cases hblank : ∃ pattern, change.pattern? = some pattern ∧
        (trim pattern.toList).isEmpty = true
    · obtain ⟨pattern, hpattern, hblank⟩ := hblank
      rw [apply_of_blank hpattern hblank] at hrefused
      obtain rfl := Except.error.inj hrefused
      exact .blankPattern hpattern hblank
    have hpattern : ∀ pattern, change.pattern? = some pattern →
        (trim pattern.toList).isEmpty = false := by
      intro pattern hpattern
      exact Bool.eq_false_iff.mpr fun h => hblank ⟨pattern, hpattern, h⟩
    cases hopen : gate.isOpen with
    | false =>
      rw [apply_of_closed hopen hpattern] at hrefused
      obtain rfl := Except.error.inj hrefused
      exact .closed hopen hpattern
    | true =>
      cases change with
      | loadText text => exact refusal_of_contents hopen rfl hrefused
      | loadFile contents =>
        cases contents with
        | none =>
          unfold apply loadFile at hrefused
          dsimp only at hrefused
          rw [if_pos hopen] at hrefused
          obtain rfl := Except.error.inj hrefused
          exact .missing hopen rfl
        | some contents => exact refusal_of_contents hopen rfl hrefused
      | addRule rule => exact refusal_of_asks hopen (.rule rule) hrefused
      | addScope pattern params =>
        exact refusal_of_asks hopen (.scope params (hpattern pattern rfl)) hrefused
      | clear => cases (install_eq_error_iff hopen).mp hrefused
      | _ => simp [apply, setCallback, reset, addPlugin, hopen] at hrefused
  · intro hrefusal
    cases hrefusal with
    | blankPattern hpattern hblank => exact apply_of_blank hpattern hblank
    | closed hclosed hpattern => exact apply_of_closed hclosed hpattern
    | missing hopen hfile =>
      subst hfile
      unfold apply loadFile
      dsimp only
      rw [if_pos hopen]
    | tooLarge hopen hcontents hlarge =>
      rw [apply_of_contents hcontents]
      unfold loadFile
      dsimp only
      rw [if_pos hopen, if_pos hlarge]
    | notText hopen hcontents hsize htext =>
      rw [apply_of_contents hcontents]
      unfold loadFile
      dsimp only
      rw [if_pos hopen, if_neg (Nat.not_lt.mpr hsize), htext]
    | unread hopen hbrings hparse => rw [apply_of_brings hopen hbrings, hparse]
    | unfit hopen hasks hcheck =>
      rw [apply_of_asks hopen hasks]
      exact (install_eq_error_iff hopen).mpr hcheck

/-! ## What a refused change leaves behind -/

/-- A refused change leaves the gate as it was. -/
theorem snd_apply_of_refused (hrefused : (gate.apply change).1 = .error error) :
    (gate.apply change).2 = gate := by
  have happlied := gate.applied_apply change
  generalize gate.apply change = update at happlied hrefused
  cases happlied with
  | refused cause => rfl
  | installed policy rules hopen hreplaces hdistinct hprepare => cases hrefused
  | reset hopen hreplaces => cases hrefused
  | equipped callback plugins hopen hkeeps => cases hrefused

/-- Whether a change was refused. -/
def Event.isRefused : Event → Bool
  | ⟨.change _, .done (.error _)⟩ => true
  | _ => false

/-- The operations of a session without the changes that are refused in it. -/
def unrefused (gate : Gate) (operations : List Operation) : List Operation :=
  ((gate.events operations).filter fun event => !event.isRefused).map Event.operation

variable {operation : Operation}

/-- A change that is refused in a session leaves the gate as it was. -/
theorem perform_of_isRefused
    (hrefused : Event.isRefused ⟨operation, (gate.perform operation).1⟩ = true) :
    (gate.perform operation).2 = gate := by
  cases operation with
  | change change =>
    change (gate.apply change).2 = gate
    cases hanswer : (gate.apply change).1 with
    | error error => exact snd_apply_of_refused hanswer
    | ok =>
      change Event.isRefused ⟨.change change, .done (gate.apply change).1⟩ = true at hrefused
      rw [hanswer] at hrefused
      cases hrefused
  | _ => cases hrefused

/-- A session that starts with a refused change goes on without it. -/
theorem unrefused_cons_of_isRefused
    (hrefused : Event.isRefused ⟨operation, (gate.perform operation).1⟩ = true)
    (operations : List Operation) :
    gate.unrefused (operation :: operations) = gate.unrefused operations := by
  unfold unrefused
  rw [events, List.filter_cons_of_neg (by simp [hrefused]), perform_of_isRefused hrefused]

/-- Any other operation stays. -/
theorem unrefused_cons_of_not_isRefused
    (hkept : Event.isRefused ⟨operation, (gate.perform operation).1⟩ = false)
    (operations : List Operation) :
    gate.unrefused (operation :: operations) =
      operation :: (gate.perform operation).2.unrefused operations := by
  unfold unrefused
  rw [events, List.filter_cons_of_pos (by simp [hkept]), List.map_cons]

/-- Without its refused changes a session leaves the same gate, and everything else in it happens as
it did. -/
theorem after_unrefused (gate : Gate) (operations : List Operation) :
    gate.after (gate.unrefused operations) = gate.after operations ∧
      gate.events (gate.unrefused operations) =
        (gate.events operations).filter fun event => !event.isRefused := by
  induction operations generalizing gate with
  | nil => exact ⟨rfl, rfl⟩
  | cons operation operations ih =>
    cases hrefused : Event.isRefused ⟨operation, (gate.perform operation).1⟩ with
    | true =>
      have hsame := perform_of_isRefused hrefused
      rw [unrefused_cons_of_isRefused hrefused, after, events,
        List.filter_cons_of_neg (by simp [hrefused]), hsame]
      exact ih gate
    | false =>
      obtain ⟨hafter, hevents⟩ := ih (gate.perform operation).2
      rw [unrefused_cons_of_not_isRefused hrefused, after, after, events, events,
        List.filter_cons_of_pos (by simp [hrefused]), hafter, hevents]
      exact ⟨rfl, rfl⟩

/-- After any session at a new gate, a change that is refused has one of the reasons to be refused
and leaves the gate as it was. What follows it happens as if it had not been asked for, and a whole
session can do without all of its refused changes. -/
theorem refused_changes_leave_no_trace (limits : Limits) (plugins : List Plugin)
    (operations : List Operation) :
    let start := new limits plugins
    let gate := start.after operations
    (∀ (change : Change) (error : Error), (gate.apply change).1 = .error error →
      gate.Refusal change error ∧ (gate.apply change).2 = gate ∧
      ∀ later : List Operation,
        start.after (operations ++ .change change :: later) =
          start.after (operations ++ later) ∧
        start.events (operations ++ .change change :: later) =
          start.events operations ++
            ⟨.change change, .done (.error error)⟩ :: gate.events later ∧
        start.events (operations ++ later) = start.events operations ++ gate.events later) ∧
    start.after (start.unrefused operations) = gate ∧
    start.events (start.unrefused operations) =
      (start.events operations).filter fun event => !event.isRefused := by
  intro start gate
  refine ⟨?_, start.after_unrefused operations⟩
  intro change error hrefused
  have hsame := snd_apply_of_refused hrefused
  refine ⟨apply_eq_error_iff.mp hrefused, hsame, ?_⟩
  intro later
  have hevent : gate.events (.change change :: later) =
      ⟨.change change, .done (.error error)⟩ :: gate.events later := by
    change ⟨.change change, .done (gate.apply change).1⟩ :: (gate.apply change).2.events later = _
    rw [hrefused, hsame]
  have hafter : gate.after (.change change :: later) = gate.after later :=
    congrArg (fun gate : Gate => gate.after later) hsame
  refine ⟨?_, ?_, start.events_append operations later⟩
  · rw [after_append, after_append, hafter]
  · rw [events_append, hevent]

/-- The rule for every parameter is refused beside another one, and a later rule does not meet
it. -/
theorem refused_accept_all_leaves_no_trace :
    let start := new {} []
    let gate := start.after [.change (.addRule ⟨"name", .any, false⟩)]
    (gate.apply (.addRule ⟨"*", .any, false⟩)).1 =
      .error (.invalidRule (.acceptAllNotAlone "global rules")) ∧
    start.after [.change (.addRule ⟨"name", .any, false⟩), .change (.addRule ⟨"*", .any, false⟩),
        .change (.addRule ⟨"age", .range 0 150, false⟩)] =
      start.after [.change (.addRule ⟨"name", .any, false⟩),
        .change (.addRule ⟨"age", .range 0 150, false⟩)] := by
  intro start gate
  have hrefused : (gate.apply (.addRule ⟨"*", .any, false⟩)).1 =
      .error (.invalidRule (.acceptAllNotAlone "global rules")) := by rfl
  obtain ⟨hchanges, _⟩ :=
    refused_changes_leave_no_trace {} [] [.change (.addRule ⟨"name", .any, false⟩)]
  obtain ⟨_, _, hlater⟩ := hchanges _ _ hrefused
  exact ⟨hrefused, (hlater [.change (.addRule ⟨"age", .range 0 150, false⟩)]).1⟩

end QueryGate.Gate
