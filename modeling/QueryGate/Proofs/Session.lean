import QueryGate.Proofs.Counting
import QueryGate.Proofs.Declaration
import QueryGate.Proofs.Resolution

/-!
# Sessions at a gate

A session is a sequence of operations at a gate: changes, closing, questions and looks. A change
either is refused and leaves the gate as it was, or has one of three effects; a question changes
only what the gate keeps ready. From this follows what holds of every gate after any session: the
rules in force are made from the declared ones, nothing is declared twice, and idle buffers are
empty.
-/

namespace QueryGate

/-! ## Idle buffers -/

namespace ScratchPool

/-- The pool holds at most so many idle buffers, and all of them are empty. -/
structure Fits (pool : ScratchPool) (size : Nat) : Prop where
  /-- The pool has this limit. -/
  limit_eq : pool.limit = size
  /-- The limit is kept. -/
  length_le : pool.idle.length ≤ size
  /-- Idle buffers are empty. -/
  blank : ∀ buffer ∈ pool.idle, buffer.text = ""

/-- A new pool has no idle buffers. -/
theorem Fits.empty (size : Nat) : (ScratchPool.empty size).Fits size :=
  ⟨rfl, Nat.zero_le size, fun _ h => nomatch h⟩

variable {pool : ScratchPool} {size : Nat}

/-- A buffer taken from a pool is empty. -/
theorem Fits.text_take (h : pool.Fits size) : pool.take.1.text = "" := by
  unfold ScratchPool.take
  split
  · rfl
  · next buffer rest hidle => exact h.blank buffer (by rw [hidle]; exact List.mem_cons_self)

/-- Taking a buffer leaves fewer idle ones. -/
theorem Fits.take (h : pool.Fits size) : pool.take.2.Fits size := by
  unfold ScratchPool.take
  split
  · exact h
  · next buffer rest hidle =>
    have hlength := h.length_le
    rw [hidle, List.length_cons] at hlength
    refine ⟨h.limit_eq, by dsimp only; omega, ?_⟩
    intro other hother
    exact h.blank other (by rw [hidle]; exact List.mem_cons_of_mem buffer hother)

/-- A buffer given back becomes idle only where there is room, and empty. -/
theorem Fits.give (h : pool.Fits size) (buffer : Buffer) : (pool.give buffer).Fits size := by
  unfold ScratchPool.give
  split
  · next hroom =>
    have hlt := of_decide_eq_true ((Bool.and_eq_true _ _).mp hroom).2
    rw [h.limit_eq] at hlt
    refine ⟨h.limit_eq, hlt, ?_⟩
    intro other hother
    rcases List.mem_cons.mp hother with rfl | hidle
    · rfl
    · exact h.blank other hidle
  · exact h

end ScratchPool

namespace Gate

/-! ## Operations -/

/-- A change of the rules or of what they are read and judged with. -/
inductive Change where
  /-- Replaces all rules by those of a text. -/
  | loadText (text : String)
  /-- Replaces all rules by those of a file. -/
  | loadFile (contents : Option (List UInt8))
  /-- Adds a rule for every path. -/
  | addRule (rule : Rule)
  /-- Adds rules for the paths that a pattern matches. -/
  | addScope (pattern : String) (params : List Rule)
  /-- Sets the callback. -/
  | setCallback (callback : Callback)
  /-- Removes all rules. -/
  | clear
  /-- Removes all rules and the callback, and returns to the given plugins. -/
  | reset
  /-- Adds a plugin. -/
  | addPlugin (plugin : Plugin)

/-- Whether a change puts other rules into force. -/
def Change.replacesRules : Change → Bool
  | loadText _ => true
  | loadFile _ => true
  | addRule _ => true
  | addScope .. => true
  | setCallback _ => false
  | clear => true
  | reset => true
  | addPlugin _ => false

/-- A question about URLs, queries, parameters or rules that were in force earlier. -/
inductive Question where
  /-- Whether a URL is accepted. -/
  | acceptsUrl (url : String)
  /-- Whether a query is accepted on a path. -/
  | acceptsQuery (path query : String)
  /-- Whether a byte query is accepted on a path. -/
  | acceptsBytes (path : String) (query : List UInt8)
  /-- Whether a parameter is accepted on a path. -/
  | acceptsParam (path name value : String)
  /-- The URL without the parameters that are not accepted. -/
  | filterUrl (url : String)
  /-- The accepted part of a query on a path. -/
  | filterQuery (path query : String)
  /-- The canonical form of a URL. -/
  | canonicalUrl (url : String)
  /-- What a kept generation says about a name on a path. -/
  | inspectKept (kept : Generation) (path name : String)

/-- A look at a gate that needs no look-up. -/
inductive Look where
  /-- The limits. -/
  | limits
  /-- Whether the gate is open. -/
  | isOpen
  /-- The names of the plugins. -/
  | pluginNames
  /-- The plugin that recognises a constraint. -/
  | pluginFor (constraint : String)
  /-- The rules in force. -/
  | rules
  /-- The figures about the rules in force. -/
  | stats
  /-- The description of the gate. -/
  | describe

/-- An operation at a gate. -/
inductive Operation where
  /-- A change. -/
  | change (change : Change)
  /-- Closing the gate. -/
  | close
  /-- A question. -/
  | ask (question : Question)
  /-- A look. -/
  | look (look : Look)

/-- What an operation answers. -/
inductive Answer where
  /-- The result of a change. -/
  | done (result : Except Error Unit)
  /-- The plugins that were told to close, and the result of closing. -/
  | closing (told : List Plugin) (result : Except Error Unit)
  /-- Whether something is accepted or is the case. -/
  | verdict (holds : Bool)
  /-- A text. -/
  | text (text : String)
  /-- What a generation says about a name. -/
  | inspection (seen : Inspection)
  /-- Limits. -/
  | limits (limits : Limits)
  /-- Names. -/
  | names (names : List String)
  /-- A name, if there is one. -/
  | name (name : Option String)
  /-- Rules. -/
  | rules (rules : Generation)
  /-- Figures. -/
  | stats (stats : Stats)

/-- Performs a change. -/
def apply (gate : Gate) : Change → Update
  | .loadText text => gate.loadText text
  | .loadFile contents => gate.loadFile contents
  | .addRule rule => gate.addRule rule
  | .addScope pattern params => gate.addScope pattern params
  | .setCallback callback => gate.setCallback callback
  | .clear => gate.clear
  | .reset => gate.reset
  | .addPlugin plugin => gate.addPlugin plugin

/-- Answers a question. -/
def ask (gate : Gate) : Question → Answer × Gate
  | .acceptsUrl url => (gate.acceptsUrl url).map .verdict id
  | .acceptsQuery path query => (gate.acceptsQuery path query).map .verdict id
  | .acceptsBytes path query => (gate.acceptsBytes path query).map .verdict id
  | .acceptsParam path name value => (gate.acceptsParam path name value).map .verdict id
  | .filterUrl url => (gate.filterUrl url).map .text id
  | .filterQuery path query => (gate.filterQuery path query).map .text id
  | .canonicalUrl url => (gate.canonicalUrl url).map .text id
  | .inspectKept kept path name => (gate.inspectKept kept path name).map .inspection id

/-- Answers a look. -/
def look (gate : Gate) : Look → Answer
  | .limits => .limits gate.limits
  | .isOpen => .verdict gate.isOpen
  | .pluginNames => .names gate.pluginNames
  | .pluginFor constraint => .name (gate.pluginFor? constraint)
  | .rules => .rules gate.rules
  | .stats => .stats gate.stats
  | .describe => .text gate.describe

/-- Performs an operation. -/
def perform (gate : Gate) : Operation → Answer × Gate
  | .change change => (gate.apply change).map .done id
  | .close => (.closing gate.close.told gate.close.result, gate.close.gate)
  | .ask question => gate.ask question
  | .look look => (gate.look look, gate)

/-- The gate after a session. -/
def after (gate : Gate) : List Operation → Gate
  | [] => gate
  | operation :: rest => (gate.perform operation).2.after rest

/-- The gate after questions. -/
def afterAsking (gate : Gate) (questions : List Question) : Gate :=
  gate.after (questions.map .ask)

/-- Sessions at a gate follow one another. -/
theorem after_append (gate : Gate) (earlier later : List Operation) :
    gate.after (earlier ++ later) = (gate.after earlier).after later := by
  induction earlier generalizing gate with
  | nil => rfl
  | cons operation earlier ih => exact ih (gate.perform operation).2

/-! ## What a change can do -/

/-- The outcomes of a change: it is refused and the gate stays as it was, or it installs declared
rules, resets the gate, or sets the callback and the plugins. -/
inductive Applied (gate : Gate) (change : Change) : Update → Prop where
  /-- The change is refused. -/
  | refused (error : Error) : Applied gate change (.error error, gate)
  /-- Declared rules come into force. -/
  | installed (policy : Policy) (rules : Generation) (hopen : gate.isOpen = true)
      (hreplaces : change.replacesRules = true)
      (hdistinct : gate.declared.Distinct → policy.Distinct)
      (hprepare : Generation.prepare policy (gate.generation + 1) = .ok rules) :
      Applied gate change (.ok (), { gate with
        rules
        globs := .empty gate.limits.matcherCacheSize
        declared := policy
        generation := gate.generation + 1 })
  /-- The gate is reset. -/
  | reset (hopen : gate.isOpen = true) (hreplaces : change.replacesRules = true) :
      Applied gate change (.ok (), { gate.withoutRules with plugins := gate.givenPlugins })
  /-- The rules stay. -/
  | equipped (callback : Option Callback) (plugins : List Plugin) (hopen : gate.isOpen = true)
      (hkeeps : change.replacesRules = false) :
      Applied gate change (.ok (), { gate with callback, plugins })

/-- Installing a policy refuses it or brings it into force. -/
theorem applied_install {gate : Gate} {change : Change} {policy : Policy}
    (hreplaces : change.replacesRules = true)
    (hdistinct : gate.declared.Distinct → policy.Distinct) :
    Applied gate change (gate.install policy) := by
  unfold install
  split
  · next hopen =>
    dsimp only
    split
    · exact .refused _
    · next rules hprepare => exact .installed policy rules hopen hreplaces hdistinct hprepare
  · exact .refused _

/-- A gate that installs a policy is open, and it changes to rules made from the policy. -/
theorem install_eq_ok_iff {gate later : Gate} {policy : Policy} :
    gate.install policy = (.ok (), later) ↔
      gate.isOpen = true ∧
        ∃ rules, Generation.prepare policy (gate.generation + 1) = .ok rules ∧
          later = { gate with
            rules
            globs := .empty gate.limits.matcherCacheSize
            declared := policy
            generation := gate.generation + 1 } := by
  unfold install
  by_cases hopen : gate.isOpen = true
  · rw [if_pos hopen]
    dsimp only
    cases Generation.prepare policy (gate.generation + 1) with
    | error error => simp
    | ok rules => simp [hopen, eq_comm]
  · rw [if_neg hopen]
    simp [hopen]

/-- Loading a text refuses it or brings its policy into force. -/
theorem applied_loadText {gate : Gate} {change : Change} {text : String}
    (hreplaces : change.replacesRules = true) : Applied gate change (gate.loadText text) := by
  unfold loadText
  split
  · split
    · exact .refused _
    · split
      · exact .refused _
      · next policy hparse =>
        exact applied_install hreplaces fun _ => Policy.distinct_of_parse hparse
  · exact .refused _

/-- Every change has one of the outcomes. -/
theorem applied_apply (gate : Gate) (change : Change) :
    Applied gate change (gate.apply change) := by
  cases change with
  | loadText text => exact applied_loadText rfl
  | loadFile contents =>
    change Applied gate _ (gate.loadFile contents)
    unfold loadFile
    split
    · split
      · exact .refused _
      · split
        · exact .refused _
        · split
          · exact .refused _
          · exact applied_loadText rfl
    · exact .refused _
  | addRule rule => exact applied_install rfl fun h => h.declare rule
  | addScope pattern params =>
    change Applied gate _ (gate.addScope pattern params)
    unfold addScope
    split
    · exact .refused _
    · exact applied_install rfl fun h => h.declareScope _ params
  | setCallback callback =>
    change Applied gate _ (gate.setCallback callback)
    unfold setCallback
    split
    · next hopen => exact .equipped (some callback) gate.plugins hopen rfl
    · exact .refused _
  | clear => exact applied_install rfl fun _ => Policy.distinct_empty
  | reset =>
    change Applied gate _ gate.reset
    unfold Gate.reset
    split
    · next hopen => exact .reset hopen rfl
    · exact .refused _
  | addPlugin plugin =>
    change Applied gate _ (gate.addPlugin plugin)
    unfold addPlugin
    split
    · next hopen => exact .equipped gate.callback (gate.plugins ++ [plugin]) hopen rfl
    · exact .refused _

/-! ## What a question can do -/

/-- The gate without what it keeps ready for later answers. -/
def bare (gate : Gate) : Gate :=
  { gate with globs := .empty 0, pool := .empty 0 }

/-- A later gate differs only in what it keeps ready, and its idle buffers are as fit for use. -/
structure Alike (gate later : Gate) : Prop where
  /-- Nothing else differs. -/
  bare_eq : later.bare = gate.bare
  /-- The pool stays fit for use. -/
  pool : ∀ {size : Nat}, gate.pool.Fits size → later.pool.Fits size

/-- A gate is like itself. -/
theorem Alike.refl (gate : Gate) : Alike gate gate :=
  ⟨rfl, id⟩

/-- A gate like a like gate is alike. -/
theorem Alike.trans {gate middle later : Gate} (h : Alike gate middle) (hl : Alike middle later) :
    Alike gate later :=
  ⟨hl.bare_eq.trans h.bare_eq, fun hpool => hl.pool (h.pool hpool)⟩

/-- What does not depend on what is kept ready is the same at a like gate. -/
theorem Alike.same {α : Type} {gate later : Gate} (h : Alike gate later) (f : Gate → α)
    (hf : ∀ gate : Gate, f gate.bare = f gate) : f later = f gate := by
  rw [← hf later, h.bare_eq, hf gate]

/-- A look-up leaves the gate alike. -/
theorem alike_lookup {α : Type} (gate : Gate) (question : Lookup α) :
    Alike gate (gate.lookup question).2 :=
  ⟨rfl, id⟩

/-- Putting a selection together leaves the gate alike. -/
theorem alike_assemble (gate : Gate) (query : String) (selection : View.Selection) :
    Alike gate (gate.assemble query selection).2 := by
  cases selection with
  | nothing => exact .refl gate
  | everything => exact .refl gate
  | segments kept complete => exact ⟨rfl, fun hpool => hpool.take.give _⟩

/-- Filtering a query leaves the gate alike. -/
theorem alike_filterParams (gate : Gate) (path query : String) :
    Alike gate (gate.filterParams path query).2 := by
  rw [filterParams_eq]
  exact (gate.alike_lookup (gate.view.select path query)).trans (alike_assemble _ query _)

/-- Reducing a URL leaves the gate alike. -/
theorem alike_reduceUrl (gate : Gate) (keepFragment : Bool) (url : String) :
    Alike gate (gate.reduceUrl keepFragment url).2 := by
  unfold reduceUrl
  dsimp only
  split
  · exact .refl gate
  · split
    · exact .refl gate
    · exact gate.alike_filterParams _ _

/-- A question leaves the gate alike. -/
theorem alike_ask (gate : Gate) (question : Question) : Alike gate (gate.ask question).2 := by
  cases question with
  | acceptsUrl url =>
    change Alike gate (gate.acceptsUrl url).2
    unfold acceptsUrl
    dsimp only
    split
    · exact .refl gate
    · split
      · exact gate.alike_lookup _
      · exact .refl gate
  | acceptsQuery path query =>
    change Alike gate (gate.acceptsQuery path query).2
    unfold acceptsQuery
    split
    · exact .refl gate
    split
    · exact .refl gate
    split
    · exact .refl gate
    · exact gate.alike_lookup _
  | acceptsBytes path query =>
    change Alike gate (gate.acceptsBytes path query).2
    unfold acceptsBytes
    split
    · exact .refl gate
    split
    · exact .refl gate
    split
    · exact .refl gate
    · exact gate.alike_lookup _
  | acceptsParam path name value =>
    change Alike gate (gate.acceptsParam path name value).2
    unfold acceptsParam
    split
    · exact .refl gate
    · exact gate.alike_lookup _
  | filterUrl url => exact gate.alike_reduceUrl true url
  | filterQuery path query =>
    change Alike gate (gate.filterQuery path query).2
    unfold filterQuery
    split
    · exact .refl gate
    · exact gate.alike_filterParams _ _
  | canonicalUrl url => exact gate.alike_reduceUrl false url
  | inspectKept kept path name =>
    change Alike gate (gate.inspectKept kept path name).2
    unfold inspectKept
    split
    · exact gate.alike_lookup _
    · exact .refl gate

/-- Questions leave the gate alike. -/
theorem alike_afterAsking (gate : Gate) (questions : List Question) :
    Alike gate (gate.afterAsking questions) := by
  induction questions generalizing gate with
  | nil => exact .refl gate
  | cons question questions ih => exact (gate.alike_ask question).trans (ih (gate.ask question).2)

/-- No operation changes the limits. -/
theorem limits_perform (gate : Gate) (operation : Operation) :
    (gate.perform operation).2.limits = gate.limits := by
  cases operation with
  | change change =>
    change (gate.apply change).2.limits = gate.limits
    have happlied := gate.applied_apply change
    generalize gate.apply change = update at happlied
    cases happlied <;> rfl
  | close =>
    change gate.close.gate.limits = gate.limits
    unfold Gate.close
    split <;> rfl
  | ask question => exact (gate.alike_ask question).same Gate.limits fun _ => rfl
  | look look => rfl

/-- A gate keeps its limits over a session. -/
theorem limits_after (gate : Gate) (operations : List Operation) :
    (gate.after operations).limits = gate.limits := by
  induction operations generalizing gate with
  | nil => rfl
  | cons operation operations ih => exact (ih _).trans (gate.limits_perform operation)

/-! ## What holds after every session -/

/-- What holds of a gate after any session. -/
structure Sound (gate : Gate) : Prop where
  /-- The rules in force are made from the declared ones, under the latest number. -/
  current : Generation.prepare gate.declared gate.generation = .ok gate.rules
  /-- Nothing is declared twice. -/
  distinct : gate.declared.Distinct
  /-- Idle buffers are empty and not too many. -/
  pool : gate.pool.Fits gate.limits.poolSize

/-- The generation without rules is made from the policy without rules. -/
theorem prepare_empty (number : Nat) :
    Generation.prepare .empty number = .ok (.empty number) := by
  have hbuild : Generation.build .empty number = .empty number := by
    have hscopes : PreparedScope.ordered [] = [] := by
      unfold PreparedScope.ordered
      rw [List.mergeSort_nil]
    change { Generation.empty number with scopes := PreparedScope.ordered [] } =
      Generation.empty number
    rw [hscopes]
    rfl
  exact Generation.prepare_eq_ok_iff.mpr ⟨rfl, hbuild.symm⟩

/-- A new gate is sound. -/
theorem sound_new (limits : Limits) (plugins : List Plugin) : (new limits plugins).Sound :=
  ⟨prepare_empty 0, Policy.distinct_empty, .empty limits.poolSize⟩

/-- A gate like a sound one is sound. -/
theorem Sound.of_alike {gate later : Gate} (h : gate.Sound) (hl : Alike gate later) :
    later.Sound := by
  have hdeclared := hl.same Gate.declared fun _ => rfl
  have hgeneration := hl.same Gate.generation fun _ => rfl
  have hrules := hl.same Gate.rules fun _ => rfl
  have hlimits := hl.same Gate.limits fun _ => rfl
  refine ⟨?_, ?_, ?_⟩
  · rw [hdeclared, hgeneration, hrules]
    exact h.current
  · rw [hdeclared]
    exact h.distinct
  · rw [hlimits]
    exact hl.pool h.pool

/-- Installing a policy without repetitions keeps a gate sound. -/
theorem Sound.install {gate later : Gate} {policy : Policy} (h : gate.Sound)
    (hdistinct : policy.Distinct) (hinstall : gate.install policy = (.ok (), later)) :
    later.Sound := by
  obtain ⟨_, rules, hprepare, rfl⟩ := install_eq_ok_iff.mp hinstall
  exact ⟨hprepare, hdistinct, h.pool⟩

/-- An operation keeps a gate sound. -/
theorem Sound.perform {gate : Gate} (h : gate.Sound) (operation : Operation) :
    (gate.perform operation).2.Sound := by
  cases operation with
  | change change =>
    change (gate.apply change).2.Sound
    have happlied := gate.applied_apply change
    generalize gate.apply change = update at happlied
    cases happlied with
    | refused error => exact h
    | installed policy rules hopen hreplaces hdistinct hprepare =>
      exact ⟨hprepare, hdistinct h.distinct, h.pool⟩
    | reset hopen hreplaces => exact ⟨prepare_empty _, Policy.distinct_empty, h.pool⟩
    | equipped callback plugins hopen hkeeps => exact ⟨h.current, h.distinct, h.pool⟩
  | close =>
    change gate.close.gate.Sound
    unfold Gate.close
    split
    · exact ⟨prepare_empty _, Policy.distinct_empty, h.pool⟩
    · exact h
  | ask question => exact h.of_alike (gate.alike_ask question)
  | look look => exact h

/-- A session keeps a gate sound. -/
theorem Sound.after {gate : Gate} (h : gate.Sound) (operations : List Operation) :
    (gate.after operations).Sound := by
  induction operations generalizing gate with
  | nil => exact h
  | cons operation operations ih => exact ih (h.perform operation)

end Gate

end QueryGate
