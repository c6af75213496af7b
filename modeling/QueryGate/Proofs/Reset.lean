import QueryGate.Proofs.Dependence
import QueryGate.Proofs.Registration

/-!
# A reset gate is as good as new

A gate that is reset differs from a new one with the same limits and plugins in two things: it goes
on counting generations, and its pool may hold buffers. Neither is used for anything but to number
generations and to put filtered queries together in a buffer that is empty. So every session goes
on at it as at a new gate, with generation numbers that are greater by what had been counted.
-/

namespace QueryGate

/-! ## Greater numbers -/

/-- The generation with a number that is greater by `n`. -/
def Generation.advance (n : Nat) (rules : Generation) : Generation :=
  { rules with number := rules.number + n }

/-- A policy is prepared for a greater number like for any other. -/
theorem Generation.prepare_advance (policy : Policy) (number n : Nat) :
    prepare policy (number + n) = (prepare policy number).map (advance n) := by
  unfold prepare
  cases policy.check <;> rfl

namespace Gate

open QueryGate.Query

/-- The gate with generation numbers that are greater by `n`, and with another pool. -/
def advance (n : Nat) (pool : ScratchPool) (gate : Gate) : Gate :=
  { gate with
    rules := gate.rules.advance n
    generation := gate.generation + n
    pool }

/-- The figures with a generation number that is greater by `n`. -/
def Stats.advance (n : Nat) (stats : Stats) : Stats :=
  { stats with generation := stats.generation + n }

/-- What a kept generation says, with a generation number that is greater by `n`. -/
def Inspection.advance (n : Nat) (seen : Inspection) : Inspection :=
  { seen with generation := seen.generation + n }

/-- The question with a generation number that is greater by `n`, if it brings a generation. -/
def Question.advance (n : Nat) : Question → Question
  | inspectKept kept path name => inspectKept (kept.advance n) path name
  | question => question

/-- The operation with a generation number that is greater by `n`, if it brings a generation. -/
def Operation.advance (n : Nat) : Operation → Operation
  | ask question => ask (question.advance n)
  | operation => operation

/-- Whether the answer to an operation tells the number of a generation. -/
def Operation.tellsNumber : Operation → Bool
  | ask (.inspectKept ..) => true
  | look .rules => true
  | look .stats => true
  | look .describe => true
  | _ => false

/-- A question stays the same if its answer tells no number. -/
theorem Question.advance_eq (n : Nat) {question : Question}
    (h : (Operation.ask question).tellsNumber = false) : question.advance n = question := by
  cases question with
  | inspectKept kept path name => cases h
  | _ => rfl

/-- Two events that differ only in generation numbers, which are greater by `n` in the second. -/
inductive Event.Advanced (n : Nat) : Event → Event → Prop where
  /-- No number is told, and all is the same. -/
  | same (operation : Operation) (answer : Answer) (h : operation.tellsNumber = false) :
      Advanced n ⟨operation, answer⟩ ⟨operation, answer⟩
  /-- The rules in force have a greater number. -/
  | rules (rules : Generation) :
      Advanced n ⟨.look .rules, .rules rules⟩ ⟨.look .rules, .rules (rules.advance n)⟩
  /-- The figures tell a greater number. -/
  | stats (stats : Stats) :
      Advanced n ⟨.look .stats, .stats stats⟩ ⟨.look .stats, .stats (stats.advance n)⟩
  /-- A gate with greater numbers is described. -/
  | description (gate : Gate) (pool : ScratchPool) :
      Advanced n ⟨.look .describe, .text gate.describe⟩
        ⟨.look .describe, .text (gate.advance n pool).describe⟩
  /-- A generation with a greater number tells its number. -/
  | inspection (kept : Generation) (path name : String) (seen : Inspection) :
      Advanced n ⟨.ask (.inspectKept kept path name), .inspection seen⟩
        ⟨.ask (.inspectKept (kept.advance n) path name), .inspection (seen.advance n)⟩

/-- Where no number is told the answers are the same. -/
theorem Event.Advanced.answer_eq {n : Nat} {event later : Event} (h : event.Advanced n later)
    (hsilent : event.operation.tellsNumber = false) : later.answer = event.answer := by
  cases h with
  | same operation answer hsame => rfl
  | _ => cases hsilent

/-! ## Changes -/

section Advance

variable (n : Nat) (pool : ScratchPool) (gate : Gate)

/-- Greater numbers do not open or close a gate. -/
theorem isOpen_advance : (gate.advance n pool).isOpen = gate.isOpen := rfl

/-- Greater numbers do not change the limits. -/
theorem limits_advance : (gate.advance n pool).limits = gate.limits := rfl

/-- Greater numbers do not change the plugins. -/
theorem plugins_advance : (gate.advance n pool).plugins = gate.plugins := rfl

/-- Greater numbers do not change the declared rules. -/
theorem declared_advance : (gate.advance n pool).declared = gate.declared := rfl

/-- Greater numbers stay greater when the rules are removed. -/
theorem withoutRules_advance :
    (gate.advance n pool).withoutRules = gate.withoutRules.advance n pool := by
  have hnumber : gate.generation + n + 1 = gate.generation + 1 + n :=
    Nat.add_right_comm gate.generation n 1
  unfold withoutRules
  change { gate with
    rules := Generation.empty (gate.generation + n + 1), globs := .empty 1, callback := none
    declared := .empty, generation := gate.generation + n + 1, pool } = _
  rw [hnumber]
  rfl

/-- A policy is installed at a gate with greater numbers as at the gate. -/
theorem install_advance (policy : Policy) :
    (gate.advance n pool).install policy = (gate.install policy).map id (advance n pool) := by
  have hnumber : (gate.advance n pool).generation + 1 = gate.generation + 1 + n :=
    Nat.add_right_comm gate.generation n 1
  unfold install
  dsimp only
  rw [hnumber, Generation.prepare_advance, isOpen_advance]
  split
  · cases Generation.prepare policy (gate.generation + 1) <;> rfl
  · rfl

/-- A text is loaded at a gate with greater numbers as at the gate. -/
theorem loadText_advance (text : String) :
    (gate.advance n pool).loadText text = (gate.loadText text).map id (advance n pool) := by
  unfold loadText
  simp only [isOpen_advance, limits_advance, plugins_advance, install_advance]
  split
  · split
    · rfl
    · split <;> rfl
  · rfl

/-- A change is made at a gate with greater numbers as at the gate. -/
theorem apply_advance (change : Change) :
    (gate.advance n pool).apply change = (gate.apply change).map id (advance n pool) := by
  cases change with
  | loadText text => exact loadText_advance n pool gate text
  | loadFile contents =>
    change (gate.advance n pool).loadFile contents =
      (gate.loadFile contents).map id (advance n pool)
    unfold loadFile
    simp only [isOpen_advance, limits_advance, loadText_advance]
    split
    · split
      · rfl
      · split
        · rfl
        · split <;> rfl
    · rfl
  | addRule rule => exact install_advance n pool gate (gate.declared.declare rule)
  | addScope pattern params =>
    change (gate.advance n pool).addScope pattern params =
      (gate.addScope pattern params).map id (advance n pool)
    unfold addScope
    simp only [declared_advance, install_advance]
    split <;> rfl
  | setCallback callback =>
    change (gate.advance n pool).setCallback callback =
      (gate.setCallback callback).map id (advance n pool)
    unfold setCallback
    rw [isOpen_advance]
    split <;> rfl
  | clear => exact install_advance n pool gate .empty
  | reset =>
    change (gate.advance n pool).reset = gate.reset.map id (advance n pool)
    unfold Gate.reset
    rw [isOpen_advance, withoutRules_advance]
    split <;> rfl
  | addPlugin plugin =>
    change (gate.advance n pool).addPlugin plugin =
      (gate.addPlugin plugin).map id (advance n pool)
    unfold addPlugin
    rw [isOpen_advance]
    split <;> rfl

/-- A gate with greater numbers is closed like the gate. -/
theorem close_advance :
    (gate.advance n pool).close =
      ⟨gate.close.told, gate.close.result, gate.close.gate.advance n pool⟩ := by
  unfold Gate.close
  rw [isOpen_advance, withoutRules_advance]
  split <;> rfl

/-! ## Questions -/

/-- A gate with greater numbers judges a URL as the gate does and keeps the same afterwards. -/
theorem acceptsUrl_advance (url : String) :
    (gate.advance n pool).acceptsUrl url = (gate.acceptsUrl url).map id (advance n pool) := by
  unfold acceptsUrl
  dsimp only
  rw [apply_ite (Prod.map id (advance n pool))]
  cases (Url.split url).query <;> rfl

/-- A gate with greater numbers judges a query as the gate does and keeps the same afterwards. -/
theorem acceptsQuery_advance (path query : String) :
    (gate.advance n pool).acceptsQuery path query =
      (gate.acceptsQuery path query).map id (advance n pool) := by
  unfold acceptsQuery
  rw [apply_ite (Prod.map id (advance n pool)), apply_ite (Prod.map id (advance n pool)),
    apply_ite (Prod.map id (advance n pool))]
  rfl

/-- A gate with greater numbers judges a byte query as the gate does and keeps the same
afterwards. -/
theorem acceptsBytes_advance (path : String) (query : List UInt8) :
    (gate.advance n pool).acceptsBytes path query =
      (gate.acceptsBytes path query).map id (advance n pool) := by
  unfold acceptsBytes
  rw [apply_ite (Prod.map id (advance n pool)), apply_ite (Prod.map id (advance n pool)),
    apply_ite (Prod.map id (advance n pool))]
  rfl

/-- A gate with greater numbers judges a parameter as the gate does and keeps the same
afterwards. -/
theorem acceptsParam_advance (path name value : String) :
    (gate.advance n pool).acceptsParam path name value =
      (gate.acceptsParam path name value).map id (advance n pool) := by
  unfold acceptsParam
  rw [apply_ite (Prod.map id (advance n pool))]
  rfl

/-- Kept generations with greater numbers are asked at a gate with greater numbers like kept
generations at the gate. -/
theorem inspectKept_advance (kept : Generation) (path name : String) :
    (gate.advance n pool).inspectKept (kept.advance n) path name =
      (gate.inspectKept kept path name).map (Inspection.advance n) (advance n pool) := by
  have hsame : (kept.advance n).number = (gate.advance n pool).rules.number ↔
      kept.number = gate.rules.number := Nat.add_right_cancel_iff
  unfold inspectKept
  rw [apply_ite (Prod.map (Inspection.advance n) (advance n pool))]
  simp only [hsame]
  rfl

variable {pool} {size : Nat}

/-- A selection is put together at a gate with greater numbers as at the gate, up to the pool. -/
theorem exists_assemble_advance (hpool : pool.Fits size) (query : String)
    (selection : View.Selection) :
    ∃ later : ScratchPool, later.Fits size ∧
      ((gate.advance n pool).assemble query selection).2 =
        (gate.assemble query selection).2.advance n later := by
  cases selection with
  | nothing => exact ⟨pool, hpool, rfl⟩
  | everything => exact ⟨pool, hpool, rfl⟩
  | segments kept complete => exact ⟨_, hpool.take.give _, rfl⟩

/-- A query is reduced at a gate with greater numbers as at the gate, up to the pool. -/
theorem exists_filterParams_advance (hpool : pool.Fits size) (path query : String) :
    ∃ later : ScratchPool, later.Fits size ∧
      ((gate.advance n pool).filterParams path query).2 =
        (gate.filterParams path query).2.advance n later := by
  rw [filterParams_eq, filterParams_eq]
  exact exists_assemble_advance n (gate.lookup (gate.view.select path query)).2 hpool query
    (gate.lookup (gate.view.select path query)).1

/-- A URL is reduced at a gate with greater numbers as at the gate, up to the pool. -/
theorem exists_reduceUrl_advance (hpool : pool.Fits size) (keepFragment : Bool) (url : String) :
    ∃ later : ScratchPool, later.Fits size ∧
      ((gate.advance n pool).reduceUrl keepFragment url).2 =
        (gate.reduceUrl keepFragment url).2.advance n later := by
  unfold reduceUrl
  dsimp only
  cases (Url.split url).query with
  | none => exact ⟨pool, hpool, rfl⟩
  | some query =>
    by_cases hrefused : (!gate.isOpen || gate.limits.maxUrlLength < url.utf8ByteSize) = true
    · have hlater : (!(gate.advance n pool).isOpen ||
          (gate.advance n pool).limits.maxUrlLength < url.utf8ByteSize) = true := hrefused
      dsimp only
      rw [if_pos hlater, if_pos hrefused]
      exact ⟨pool, hpool, rfl⟩
    · have hlater : ¬(!(gate.advance n pool).isOpen ||
          (gate.advance n pool).limits.maxUrlLength < url.utf8ByteSize) = true := hrefused
      dsimp only
      rw [if_neg hlater, if_neg hrefused]
      exact exists_filterParams_advance n gate hpool (Url.split url).path query

/-- A query is filtered at a gate with greater numbers as at the gate, up to the pool. -/
theorem exists_filterQuery_advance (hpool : pool.Fits size) (path query : String) :
    ∃ later : ScratchPool, later.Fits size ∧
      ((gate.advance n pool).filterQuery path query).2 =
        (gate.filterQuery path query).2.advance n later := by
  unfold filterQuery
  by_cases hrefused : (!gate.isOpen || !gate.view.fits path query.utf8ByteSize) = true
  · have hlater : (!(gate.advance n pool).isOpen ||
        !(gate.advance n pool).view.fits path query.utf8ByteSize) = true := hrefused
    rw [if_pos hlater, if_pos hrefused]
    exact ⟨pool, hpool, rfl⟩
  · have hlater : ¬(!(gate.advance n pool).isOpen ||
        !(gate.advance n pool).view.fits path query.utf8ByteSize) = true := hrefused
    rw [if_neg hlater, if_neg hrefused]
    exact exists_filterParams_advance n gate hpool path (beforeFragment query)

/-- A question leaves a gate with greater numbers as it leaves the gate, up to the pool. -/
theorem exists_ask_advance (hpool : pool.Fits size) (question : Question) :
    ∃ later : ScratchPool, later.Fits size ∧
      ((gate.advance n pool).ask (question.advance n)).2 =
        (gate.ask question).2.advance n later := by
  cases question with
  | acceptsUrl url => exact ⟨pool, hpool, congrArg Prod.snd (acceptsUrl_advance n pool gate url)⟩
  | acceptsQuery path query =>
    exact ⟨pool, hpool, congrArg Prod.snd (acceptsQuery_advance n pool gate path query)⟩
  | acceptsBytes path query =>
    exact ⟨pool, hpool, congrArg Prod.snd (acceptsBytes_advance n pool gate path query)⟩
  | acceptsParam path name value =>
    exact ⟨pool, hpool, congrArg Prod.snd (acceptsParam_advance n pool gate path name value)⟩
  | filterUrl url => exact exists_reduceUrl_advance n gate hpool true url
  | filterQuery path query => exact exists_filterQuery_advance n gate hpool path query
  | canonicalUrl url => exact exists_reduceUrl_advance n gate hpool false url
  | inspectKept kept path name =>
    exact ⟨pool, hpool, congrArg Prod.snd (inspectKept_advance n pool gate kept path name)⟩

variable {gate}

/-- A gate with greater numbers is as sound as the gate. -/
theorem Sound.advance (h : gate.Sound) (hpool : pool.Fits gate.limits.poolSize) :
    (gate.advance n pool).Sound := by
  refine ⟨?_, h.distinct, hpool⟩
  have hprepare : Generation.prepare gate.declared (gate.generation + n) =
      .ok (gate.rules.advance n) := by
    rw [Generation.prepare_advance, h.current]
    rfl
  exact hprepare

/-- A question is answered at a gate with greater numbers as at the gate. -/
theorem Sound.advanced_ask (h : gate.Sound) (hpool : pool.Fits gate.limits.poolSize)
    (question : Question) :
    Event.Advanced n ⟨.ask question, (gate.ask question).1⟩
      ⟨.ask (question.advance n), ((gate.advance n pool).ask (question.advance n)).1⟩ := by
  cases hnumber : (Operation.ask question).tellsNumber with
  | false =>
    have hagrees : (gate.advance n pool).AgreesOn gate question.path := ⟨rfl, rfl, rfl, rfl, rfl⟩
    rw [Question.advance_eq n hnumber, hagrees.fst_ask_eq (h.advance n hpool) h]
    exact .same (.ask question) (gate.ask question).1 hnumber
  | true =>
    cases question with
    | inspectKept kept path name =>
      have hseen : ((gate.advance n pool).inspectKept (kept.advance n) path name).1 =
          (gate.inspectKept kept path name).1.advance n :=
        congrArg Prod.fst (inspectKept_advance n pool gate kept path name)
      change Event.Advanced n _ ⟨.ask (.inspectKept (kept.advance n) path name),
        .inspection ((gate.advance n pool).inspectKept (kept.advance n) path name).1⟩
      rw [hseen]
      exact .inspection kept path name (gate.inspectKept kept path name).1
    | _ => cases hnumber

/-! ## Sessions -/

/-- A look at a gate with greater numbers shows what a look at the gate shows. -/
theorem advanced_look (look : Look) :
    Event.Advanced n ⟨.look look, gate.look look⟩
      ⟨.look look, (gate.advance n pool).look look⟩ := by
  cases look with
  | rules => exact .rules gate.rules
  | stats => exact .stats gate.stats
  | describe => exact .description gate pool
  | limits => exact .same (.look .limits) (.limits gate.limits) rfl
  | isOpen => exact .same (.look .isOpen) (.verdict gate.isOpen) rfl
  | pluginNames => exact .same (.look .pluginNames) (.names gate.pluginNames) rfl
  | pluginFor constraint =>
    exact .same (.look (.pluginFor constraint)) (.name (gate.pluginFor? constraint)) rfl

/-- An operation at a gate with greater numbers is answered as at the gate, and leaves it as it
leaves the gate, up to the pool. -/
theorem Sound.exists_perform_advance (h : gate.Sound) (hpool : pool.Fits gate.limits.poolSize)
    (operation : Operation) :
    Event.Advanced n ⟨operation, (gate.perform operation).1⟩
        ⟨operation.advance n, ((gate.advance n pool).perform (operation.advance n)).1⟩ ∧
      ∃ later : ScratchPool, later.Fits gate.limits.poolSize ∧
        ((gate.advance n pool).perform (operation.advance n)).2 =
          (gate.perform operation).2.advance n later := by
  cases operation with
  | change change =>
    have happly := apply_advance n pool gate change
    refine ⟨?_, pool, hpool, congrArg Prod.snd happly⟩
    have hresult : ((gate.advance n pool).apply change).1 = (gate.apply change).1 := by
      rw [happly]
      rfl
    change Event.Advanced n _ ⟨.change change, .done ((gate.advance n pool).apply change).1⟩
    rw [hresult]
    exact .same (.change change) (.done (gate.apply change).1) rfl
  | close =>
    have hclose := close_advance n pool gate
    refine ⟨?_, pool, hpool, congrArg Closing.gate hclose⟩
    change Event.Advanced n _ ⟨.close,
      .closing (gate.advance n pool).close.told (gate.advance n pool).close.result⟩
    rw [hclose]
    exact .same .close (.closing gate.close.told gate.close.result) rfl
  | ask question =>
    exact ⟨h.advanced_ask n hpool question, exists_ask_advance n gate hpool question⟩
  | look look => exact ⟨advanced_look n look, pool, hpool, rfl⟩

/-- A session at a gate with greater numbers goes on as at the gate. -/
theorem Sound.events_advance (h : gate.Sound) (hpool : pool.Fits gate.limits.poolSize)
    (operations : List Operation) :
    List.Forall₂ (Event.Advanced n) (gate.events operations)
      ((gate.advance n pool).events (operations.map (Operation.advance n))) := by
  induction operations generalizing gate pool with
  | nil => exact .nil
  | cons operation operations ih =>
    obtain ⟨hanswer, later, hlater, hgate⟩ := h.exists_perform_advance n hpool operation
    have hrest := ih (h.perform operation) (by rwa [limits_perform])
    rw [← hgate] at hrest
    exact .cons hanswer hrest

end Advance

/-! ## A reset gate -/

variable {gate : Gate}

/-- A gate that is reset is the new gate with its limits and given plugins, but for the numbers of
generations and the pool. -/
theorem reset_eq_advance_new (hopen : gate.isOpen = true) :
    gate.reset = (.ok (),
      (new gate.limits gate.givenPlugins).advance (gate.generation + 1) gate.pool) := by
  have hrules : (Generation.empty 0).advance (gate.generation + 1) =
      .empty (gate.generation + 1) :=
    congrArg Generation.empty (Nat.zero_add (gate.generation + 1))
  unfold Gate.reset advance withoutRules new
  rw [if_pos hopen]
  simp only [hrules, hopen, Nat.zero_add]

/-- The rules in force have the latest number. -/
theorem Sound.number_eq (h : gate.Sound) : gate.rules.number = gate.generation := by
  obtain ⟨_, hrules⟩ := Generation.prepare_eq_ok_iff.mp h.current
  rw [hrules]
  rfl

/-- A generation that was in force earlier is asked without a trace at the gate. -/
theorem Sound.inspectKept_of_lt (h : gate.Sound) {kept : Generation}
    (hearlier : kept.number < gate.generation) (path name : String) :
    gate.inspectKept kept path name = (inspectionOf kept path name, gate) := by
  have hother : ¬kept.number = gate.rules.number := by
    rw [h.number_eq]
    omega
  refine Prod.ext (fst_inspectKept gate kept path name) ?_
  unfold inspectKept
  rw [if_neg hother]

/-- Resetting a gate after any session gives a gate that is as good as a new one. The reset succeeds
if the gate is open. Every further session is then answered, operation by operation, as at a new
gate with the same limits and plugins, but that generation numbers are greater by the number of the
reset; kept generations that are brought to the gate have their numbers greater by as much. About
those that were kept before the reset a gate is asked at any time without changing it. -/
theorem reset_restores_new (limits : Limits) (plugins : List Plugin) (operations : List Operation)
    (hopen : ((new limits plugins).after operations).isOpen = true) :
    let gate := (new limits plugins).after operations
    let number := gate.generation + 1
    ∃ restored, gate.apply .reset = (.ok (), restored) ∧ restored.generation = number ∧
      (∀ later : List Operation,
        List.Forall₂ (Event.Advanced number) ((new limits plugins).events later)
          (restored.events (later.map (Operation.advance number)))) ∧
      ∀ (later : List Operation) (kept : Generation) (path name : String), kept.number < number →
        (restored.after later).inspectKept kept path name =
          (inspectionOf kept path name, restored.after later) := by
  intro gate number
  have hsound : gate.Sound := (sound_new limits plugins).after operations
  have hlimits : gate.limits = limits := (new limits plugins).limits_after operations
  have hplugins : gate.givenPlugins = plugins := (new limits plugins).givenPlugins_after operations
  have hpool : gate.pool.Fits limits.poolSize := hlimits ▸ hsound.pool
  have hreset : gate.apply .reset = (.ok (), (new limits plugins).advance number gate.pool) := by
    have heq := reset_eq_advance_new hopen
    rwa [hlimits, hplugins] at heq
  have hnew : (new limits plugins).Sound := sound_new limits plugins
  refine ⟨_, hreset, Nat.zero_add number, fun later => hnew.events_advance number hpool later, ?_⟩
  intro later kept path name hearlier
  have hlater := (hnew.advance number hpool).after later
  refine hlater.inspectKept_of_lt ?_ path name
  have hgeneration := generation_after ((new limits plugins).advance number gate.pool) later
  have hstart : ((new limits plugins).advance number gate.pool).generation = number :=
    Nat.zero_add number
  omega

/-- A rule that leaves the decision to the callback. -/
def tokenRule : Rule :=
  ⟨"token", .callback, false⟩

/-- A session with a callback and a rule that asks it. -/
def askingCallback : List Operation :=
  [.change (.setCallback fun _ _ => .accept), .change (.addRule tokenRule),
    .ask (.acceptsQuery "/" "token=1")]

/-- After a reset the same rule accepts nothing, because the callback is gone as at a new gate, and
the generation of the rule has a greater number. -/
theorem reset_restores_new_callback :
    let gate := (new {} []).after askingCallback
    let later := gate.reset.2.after [.change (.addRule tokenRule)]
    gate.isOpen = true ∧ (gate.acceptsQuery "/" "token=1").1 = true ∧
      (later.acceptsQuery "/" "token=1").1 = false ∧ gate.reset.2.generation = 2 := by
  intro gate later
  have hopen : gate.isOpen = true := by rfl
  have haccepts : (gate.acceptsQuery "/" "token=1").1 = true := by decide +kernel
  have hrefuses : (((new {} []).after [.change (.addRule tokenRule)]).acceptsQuery "/"
      "token=1").1 = false := by
    decide +kernel
  obtain ⟨restored, hreset, hgeneration, hsessions, _⟩ :=
    reset_restores_new {} [] askingCallback hopen
  have hanswers := hsessions [.change (.addRule tokenRule), .ask (.acceptsQuery "/" "token=1")]
  have hquery := (List.forall₂_cons.mp (List.forall₂_cons.mp hanswers).2).1.answer_eq rfl
  have hlater : ((restored.after [.change (.addRule tokenRule)]).acceptsQuery "/" "token=1").1 =
      false := (Answer.verdict.inj hquery).trans hrefuses
  obtain rfl : gate.reset.2 = restored := congrArg Prod.snd hreset
  exact ⟨hopen, haccepts, hlater, hgeneration⟩

end Gate

end QueryGate
