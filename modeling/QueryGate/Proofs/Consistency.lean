import QueryGate.Proofs.Session

/-!
# The rules in force follow the declared rules

Over any session, with refused operations among them, three things stay in step: the number of the
rules in force, the latest number given out, and the count of the operations that put other rules
into force. The rules in force answer for every name and path as the declared rules would, and the
declared rules are orderly.
-/

namespace QueryGate.Gate

/-- An operation of a session with its answer. -/
structure Event where
  /-- The operation. -/
  operation : Operation
  /-- Its answer. -/
  answer : Answer

/-- What happens in a session. -/
def events (gate : Gate) : List Operation → List Event
  | [] => []
  | operation :: rest =>
    ⟨operation, (gate.perform operation).1⟩ :: (gate.perform operation).2.events rest

/-- What happens in sessions that follow one another. -/
theorem events_append (gate : Gate) (earlier later : List Operation) :
    gate.events (earlier ++ later) = gate.events earlier ++ (gate.after earlier).events later := by
  induction earlier generalizing gate with
  | nil => rfl
  | cons operation earlier ih => exact congrArg (List.cons _) (ih (gate.perform operation).2)

namespace Event

/-- Whether a change of the rules succeeded. -/
def replacedRules : Event → Bool
  | ⟨.change change, .done (.ok ())⟩ => change.replacesRules
  | _ => false

/-- Whether the gate was told to close. -/
def isClose : Event → Bool
  | ⟨.close, _⟩ => true
  | _ => false

end Event

/-- How often other rules came into force: at every change of the rules that succeeded, and when the
gate was closed first. -/
def ruleChanges (events : List Event) : Nat :=
  events.countP Event.replacedRules + if events.any Event.isClose then 1 else 0

/-- A gate stays open until it is told to close. -/
theorem isOpen_perform (gate : Gate) (operation : Operation) :
    (gate.perform operation).2.isOpen =
      (gate.isOpen && !Event.isClose ⟨operation, (gate.perform operation).1⟩) := by
  cases operation with
  | change change =>
    change (gate.apply change).2.isOpen = (gate.isOpen && !false)
    have happlied := gate.applied_apply change
    generalize gate.apply change = update at happlied
    rw [Bool.not_false, Bool.and_true]
    cases happlied <;> rfl
  | close =>
    change gate.close.gate.isOpen = (gate.isOpen && !true)
    unfold Gate.close
    split
    · next hopen => rw [hopen]; rfl
    · next hclosed =>
      rw [Bool.not_eq_true] at hclosed
      rw [hclosed]
      rfl
  | ask question =>
    change (gate.ask question).2.isOpen = (gate.isOpen && !false)
    rw [(gate.alike_ask question).same Gate.isOpen fun _ => rfl, Bool.not_false, Bool.and_true]
  | look look =>
    change gate.isOpen = (gate.isOpen && !false)
    rw [Bool.not_false, Bool.and_true]

/-- A number is given out by a change of the rules that succeeds and by closing an open gate. -/
theorem generation_perform (gate : Gate) (operation : Operation) :
    (gate.perform operation).2.generation = gate.generation +
      ((if Event.replacedRules ⟨operation, (gate.perform operation).1⟩ then 1 else 0) +
        if gate.isOpen && Event.isClose ⟨operation, (gate.perform operation).1⟩ then 1 else 0) := by
  cases operation with
  | change change =>
    change (gate.apply change).2.generation = gate.generation +
      ((if Event.replacedRules ⟨.change change, .done (gate.apply change).1⟩ then 1 else 0) +
        if gate.isOpen && false then 1 else 0)
    have happlied := gate.applied_apply change
    generalize gate.apply change = update at happlied
    rw [Bool.and_false]
    cases happlied with
    | refused error => rfl
    | installed policy rules hopen hreplaces hdistinct hprepare =>
      change gate.generation + 1 = gate.generation + ((if change.replacesRules then 1 else 0) + 0)
      rw [if_pos hreplaces]
    | reset hopen hreplaces =>
      change gate.generation + 1 = gate.generation + ((if change.replacesRules then 1 else 0) + 0)
      rw [if_pos hreplaces]
    | equipped callback plugins hopen hkeeps =>
      change gate.generation = gate.generation + ((if change.replacesRules then 1 else 0) + 0)
      rw [hkeeps]
      rfl
  | close =>
    change gate.close.gate.generation = gate.generation +
      (0 + if gate.isOpen && true then 1 else 0)
    unfold Gate.close
    split
    · next hopen => rw [hopen]; rfl
    · next hclosed =>
      rw [Bool.not_eq_true] at hclosed
      rw [hclosed]
      rfl
  | ask question =>
    change (gate.ask question).2.generation = gate.generation +
      (0 + if gate.isOpen && false then 1 else 0)
    rw [(gate.alike_ask question).same Gate.generation fun _ => rfl, Bool.and_false]
    rfl
  | look look =>
    change gate.generation = gate.generation + (0 + if gate.isOpen && false then 1 else 0)
    rw [Bool.and_false]
    rfl

/-- The numbers given out in a session count the changes of the rules, and the first time that an
open gate is told to close. -/
theorem generation_after (gate : Gate) (operations : List Operation) :
    (gate.after operations).generation = gate.generation +
      ((gate.events operations).countP Event.replacedRules +
        if gate.isOpen && (gate.events operations).any Event.isClose then 1 else 0) := by
  induction operations generalizing gate with
  | nil =>
    change gate.generation = gate.generation + (0 + if gate.isOpen && false then 1 else 0)
    rw [Bool.and_false]
    rfl
  | cons operation rest ih =>
    have hrest := ih (gate.perform operation).2
    rw [generation_perform, isOpen_perform] at hrest
    change ((gate.perform operation).2.after rest).generation = _
    rw [hrest, events, List.countP_cons, List.any_cons]
    -- Once the gate is closed, being told to close again gives out no number.
    cases gate.isOpen <;> cases Event.isClose ⟨operation, (gate.perform operation).1⟩ <;>
      simp only [Bool.false_and, Bool.true_and, Bool.not_true, Bool.not_false, Bool.true_or,
        Bool.false_or, Bool.false_eq_true, if_true, if_false] <;> omega

/-- After any session at a new gate, whatever was refused in it: the rules in force have the latest
number, which counts the changes of the rules that took effect; they are what the declared rules are
made into, and they give each name on each path the rule that the declared rules give it; and the
declared rules are orderly. -/
theorem rules_follow_declared (limits : Limits) (plugins : List Plugin)
    (operations : List Operation) :
    let gate := (new limits plugins).after operations
    (gate.rules.number = gate.generation ∧
      gate.generation = ruleChanges ((new limits plugins).events operations)) ∧
    (Generation.prepare gate.declared gate.generation = .ok gate.rules ∧
      ∀ (path name : String) (kept later : GlobStore),
        ((gate.rules.ruleFor ((gate.rules.coverage path).run kept).1 path name).run later).1 =
          gate.declared.governingRule path name) ∧
    gate.declared.Orderly := by
  intro gate
  have hsound : gate.Sound := (sound_new limits plugins).after operations
  obtain ⟨hcheck, hrules⟩ := Generation.prepare_eq_ok_iff.mp hsound.current
  refine ⟨⟨?_, ?_⟩, ⟨hsound.current, ?_⟩, hsound.distinct.orderly hcheck⟩
  · rw [hrules]
    rfl
  · have hgeneration := generation_after (new limits plugins) operations
    change gate.generation = 0 + _ at hgeneration
    rw [hgeneration, Nat.zero_add]
    rfl
  · intro path name kept later
    rw [gate.rules.yields_coverage path kept, gate.rules.yields_ruleFor path name later, hrules,
      Generation.ruleNamed_build]

end QueryGate.Gate
