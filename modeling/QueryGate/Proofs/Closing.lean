import QueryGate.Proofs.Query
import QueryGate.Proofs.Refusal
import QueryGate.Proofs.Registration

/-!
# Closing a gate

An open gate that is closed tells the registered plugins to close, each once and in order, those
behind one that fails too, and the first failure is the result. From then on nothing that is done
changes the gate: it accepts nothing, it leaves no parameter of a query, and it refuses every
change.
-/

namespace QueryGate.Gate

open QueryGate.Query QueryGate.Text

/-! ## Telling the plugins -/

/-- Tells one more plugin to close. Of several failures the first one is kept. -/
def tell (sofar : List Plugin × Except Error Unit) (plugin : Plugin) :
    List Plugin × Except Error Unit :=
  (sofar.1 ++ [plugin],
    match sofar.2, plugin.close with
    | .ok (), .error cause => .error (.pluginClose plugin.name cause.message)
    | result, _ => result)

/-- After a failure the other plugins are told too, and the failure is kept. -/
theorem foldl_tell_error (plugins told : List Plugin) (error : Error) :
    plugins.foldl tell (told, .error error) = (told ++ plugins, .error error) := by
  induction plugins generalizing told with
  | nil => simp only [List.foldl_nil, List.append_nil]
  | cons plugin plugins ih =>
    have hstep : tell (told, .error error) plugin = (told ++ [plugin], .error error) := rfl
    rw [List.foldl_cons, hstep, ih, List.append_assoc, List.singleton_append]

/-- Telling plugins one after the other reaches all of them and finds the first failure. -/
theorem foldl_tell (plugins told : List Plugin) :
    plugins.foldl tell (told, .ok ()) = (told ++ plugins, closeAll plugins) := by
  induction plugins generalizing told with
  | nil => simp only [List.foldl_nil, List.append_nil, closeAll]
  | cons plugin plugins ih =>
    rw [List.foldl_cons, closeAll]
    cases hclose : plugin.close with
    | ok =>
      have hstep : tell (told, .ok ()) plugin = (told ++ [plugin], .ok ()) := by
        rw [tell, hclose]
      rw [hstep, ih, List.append_assoc, List.singleton_append]
    | error cause =>
      have hstep : tell (told, .ok ()) plugin =
          (told ++ [plugin], .error (.pluginClose plugin.name cause.message)) := by
        rw [tell, hclose]
      rw [hstep, foldl_tell_error, List.append_assoc, List.singleton_append]

/-- The first plugin of a list that fails to close, and why it fails. -/
def FailsFirst (plugins : List Plugin) (failing : Plugin) (cause : Error) : Prop :=
  ∃ before behind, plugins = before ++ failing :: behind ∧
    (∀ plugin ∈ before, plugin.close = .ok ()) ∧ failing.close = .error cause

/-- Plugins that close do not matter to the result. -/
theorem closeAll_append {before : List Plugin} (h : ∀ plugin ∈ before, plugin.close = .ok ())
    (rest : List Plugin) : closeAll (before ++ rest) = closeAll rest := by
  induction before with
  | nil => rfl
  | cons plugin before ih =>
    rw [List.forall_mem_cons] at h
    rw [List.cons_append, closeAll, h.1]
    exact ih h.2

/-- All plugins of a list close, or one of them is the first to fail. -/
theorem forall_close_or_exists_failsFirst (plugins : List Plugin) :
    (∀ plugin ∈ plugins, plugin.close = .ok ()) ∨
      ∃ failing cause, FailsFirst plugins failing cause := by
  induction plugins with
  | nil => exact .inl fun _ h => (nomatch h)
  | cons plugin plugins ih =>
    cases hclose : plugin.close with
    | error cause => exact .inr ⟨plugin, cause, [], plugins, rfl, fun _ h => (nomatch h), hclose⟩
    | ok =>
      rcases ih with hall | ⟨failing, cause, before, behind, rfl, hbefore, hfails⟩
      · exact .inl (List.forall_mem_cons.mpr ⟨hclose, hall⟩)
      · exact .inr ⟨failing, cause, plugin :: before, behind, rfl,
          List.forall_mem_cons.mpr ⟨hclose, hbefore⟩, hfails⟩

/-- The result is the failure of the plugin that fails first. -/
theorem closeAll_of_failsFirst {plugins : List Plugin} {failing : Plugin} {cause : Error}
    (h : FailsFirst plugins failing cause) :
    closeAll plugins = .error (.pluginClose failing.name cause.message) := by
  obtain ⟨before, behind, rfl, hbefore, hfails⟩ := h
  rw [closeAll_append hbefore, closeAll, hfails]

/-- The result is success if all plugins close. -/
theorem closeAll_of_forall_close {plugins : List Plugin}
    (h : ∀ plugin ∈ plugins, plugin.close = .ok ()) : closeAll plugins = .ok () := by
  have happend := closeAll_append h []
  rwa [List.append_nil] at happend

/-- Telling plugins to close succeeds exactly if all of them close. -/
theorem closeAll_eq_ok_iff {plugins : List Plugin} :
    closeAll plugins = .ok () ↔ ∀ plugin ∈ plugins, plugin.close = .ok () := by
  refine ⟨fun hok => ?_, closeAll_of_forall_close⟩
  rcases forall_close_or_exists_failsFirst plugins with hall | ⟨failing, cause, hfirst⟩
  · exact hall
  · rw [closeAll_of_failsFirst hfirst] at hok
    cases hok

/-- Telling plugins to close fails exactly with the failure of the plugin that fails first. -/
theorem closeAll_eq_error_iff {plugins : List Plugin} {error : Error} :
    closeAll plugins = .error error ↔
      ∃ failing cause, FailsFirst plugins failing cause ∧
        error = .pluginClose failing.name cause.message := by
  constructor
  · intro herror
    rcases forall_close_or_exists_failsFirst plugins with hall | ⟨failing, cause, hfirst⟩
    · rw [closeAll_of_forall_close hall] at herror
      cases herror
    · rw [closeAll_of_failsFirst hfirst] at herror
      exact ⟨failing, cause, hfirst, (Except.error.inj herror).symm⟩
  · rintro ⟨failing, cause, hfirst, rfl⟩
    exact closeAll_of_failsFirst hfirst

variable {gate : Gate}

/-! ## Closed gates -/

/-- Nothing that is done at a closed gate changes it. -/
theorem alike_perform_of_closed (hclosed : gate.isOpen = false) (operation : Operation) :
    Alike gate (gate.perform operation).2 := by
  cases operation with
  | change change =>
    change Alike gate (gate.apply change).2
    have happlied := gate.applied_apply change
    generalize gate.apply change = update at happlied
    have hnotOpen : ¬gate.isOpen = true := by rw [hclosed]; exact Bool.false_ne_true
    cases happlied with
    | refused error => exact .refl gate
    | installed policy rules hopen hreplaces hdistinct hprepare => exact absurd hopen hnotOpen
    | reset hopen hreplaces => exact absurd hopen hnotOpen
    | equipped callback plugins hopen hkeeps => exact absurd hopen hnotOpen
  | close =>
    change Alike gate gate.close.gate
    unfold Gate.close
    rw [hclosed]
    exact .refl gate
  | ask question => exact gate.alike_ask question
  | look look => exact .refl gate

/-- A session at a closed gate leaves it alike. -/
theorem alike_after_of_closed (hclosed : gate.isOpen = false) (operations : List Operation) :
    Alike gate (gate.after operations) := by
  induction operations generalizing gate with
  | nil => exact .refl gate
  | cons operation operations ih =>
    have hstep := alike_perform_of_closed hclosed operation
    have hstill : (gate.perform operation).2.isOpen = false :=
      (hstep.same Gate.isOpen fun _ => rfl).trans hclosed
    exact hstep.trans (ih hstill)

/-- The plugins that are told to close at an event. -/
def Event.told : Event → List Plugin
  | ⟨_, .closing told _⟩ => told
  | _ => []

/-- Plugins are told to close when an open gate is closed, and at no other time. -/
theorem told_perform (gate : Gate) (operation : Operation) :
    Event.told ⟨operation, (gate.perform operation).1⟩ =
      if gate.isOpen && Event.isClose ⟨operation, (gate.perform operation).1⟩ then gate.plugins
      else [] := by
  cases operation with
  | change change =>
    simp only [Event.isClose, Bool.and_false, Bool.false_eq_true, if_false]
    rfl
  | close =>
    change gate.close.told = if gate.isOpen && true then gate.plugins else []
    unfold Gate.close
    cases gate.isOpen <;> rfl
  | ask question =>
    simp only [Event.isClose, Bool.and_false, Bool.false_eq_true, if_false]
    cases question <;> rfl
  | look look =>
    simp only [Event.isClose, Bool.and_false, Bool.false_eq_true, if_false]
    cases look <;> rfl

/-- Nobody is told to close at a closed gate. -/
theorem told_events_of_closed (hclosed : gate.isOpen = false) (operations : List Operation) :
    (gate.events operations).flatMap Event.told = [] := by
  induction operations generalizing gate with
  | nil => rfl
  | cons operation operations ih =>
    have hlike := alike_perform_of_closed hclosed operation
    have hstill : (gate.perform operation).2.isOpen = false :=
      (hlike.same Gate.isOpen fun _ => rfl).trans hclosed
    have hnone : Event.told ⟨operation, (gate.perform operation).1⟩ = [] := by
      rw [told_perform, hclosed]
      rfl
    rw [events, List.flatMap_cons, hnone, ih hstill, List.append_nil]

/-- Nobody is told to close in a session that leaves the gate open. -/
theorem told_events_of_open {operations : List Operation}
    (hopen : (gate.after operations).isOpen = true) :
    (gate.events operations).flatMap Event.told = [] := by
  induction operations generalizing gate with
  | nil => rfl
  | cons operation operations ih =>
    have hstill : (gate.perform operation).2.isOpen = true := by
      cases hnext : (gate.perform operation).2.isOpen with
      | true => rfl
      | false =>
        have hlike := alike_after_of_closed hnext operations
        rw [after, hlike.same Gate.isOpen fun _ => rfl, hnext] at hopen
        exact hopen
    have hnoClose := hstill
    rw [isOpen_perform, Bool.and_eq_true, Bool.not_eq_true'] at hnoClose
    have hnone : Event.told ⟨operation, (gate.perform operation).1⟩ = [] := by
      rw [told_perform, hnoClose.2, Bool.and_false]
      rfl
    rw [events, List.flatMap_cons, hnone, ih hopen, List.append_nil]

/-- In a session in which an open gate is closed, its plugins are told to close once each, whatever
is done before and afterwards. -/
theorem told_events_close {operations : List Operation}
    (hopen : (gate.after operations).isOpen = true) (later : List Operation) :
    (gate.events (operations ++ .close :: later)).flatMap Event.told =
      (gate.after operations).plugins := by
  have hclosed : (gate.after operations).close.gate.isOpen = false := by
    unfold Gate.close
    rw [hopen]
    rfl
  have htold : Event.told ⟨.close, ((gate.after operations).perform .close).1⟩ =
      (gate.after operations).plugins := by
    rw [told_perform, hopen]
    rfl
  have hlater : (((gate.after operations).perform .close).2.events later).flatMap Event.told = [] :=
    told_events_of_closed hclosed later
  rw [events_append, List.flatMap_append, told_events_of_open hopen, List.nil_append, events,
    List.flatMap_cons, htold, hlater, List.append_nil]

/-! ## What a closed gate answers -/

/-- A gate that accepts nothing, leaves no parameter of a query, and need not be closed again. -/
structure FailsClosed (gate : Gate) : Prop where
  /-- The gate is not open. -/
  isOpen_eq : gate.isOpen = false
  /-- No URL is accepted, not even one without query. -/
  acceptsUrl : ∀ url, (gate.acceptsUrl url).1 = false
  /-- No query is accepted, not even the empty one. -/
  acceptsQuery : ∀ path query, (gate.acceptsQuery path query).1 = false
  /-- No byte query is accepted. -/
  acceptsBytes : ∀ path query, (gate.acceptsBytes path query).1 = false
  /-- No parameter is accepted. -/
  acceptsParam : ∀ path name value, (gate.acceptsParam path name value).1 = false
  /-- A URL is left with its path if it has a query. -/
  filterUrl : ∀ path query : String, '?' ∉ path.toList → '#' ∉ path.toList →
    (gate.filterUrl (path ++ "?" ++ query)).1 = path
  /-- The canonical form of a URL with a query is its path. -/
  canonicalUrl : ∀ path query : String, '?' ∉ path.toList → '#' ∉ path.toList →
    (gate.canonicalUrl (path ++ "?" ++ query)).1 = path
  /-- Nothing is left of a query. -/
  filterQuery : ∀ path query, (gate.filterQuery path query).1 = ""
  /-- Closing does nothing and succeeds. -/
  close_eq : gate.close = ⟨[], .ok (), gate⟩

/-- A closed gate reduces a URL with a query to its path. -/
theorem fst_reduceUrl_of_closed (hclosed : gate.isOpen = false) (keepFragment : Bool)
    {path : String} (hquestion : '?' ∉ path.toList) (hhash : '#' ∉ path.toList) (query : String) :
    (gate.reduceUrl keepFragment (path ++ "?" ++ query)).1 = path := by
  obtain ⟨hpath, hquery⟩ := Url.split_append hquestion hhash query
  unfold reduceUrl
  dsimp only
  rw [hquery, hclosed]
  exact hpath

/-- A closed gate accepts nothing and leaves nothing. -/
theorem failsClosed_of_closed (hclosed : gate.isOpen = false) : gate.FailsClosed where
  isOpen_eq := hclosed
  acceptsUrl url := by
    unfold Gate.acceptsUrl
    rw [hclosed]
    rfl
  acceptsQuery path query := by
    unfold Gate.acceptsQuery
    rw [hclosed]
    rfl
  acceptsBytes path query := by
    unfold Gate.acceptsBytes
    rw [hclosed]
    rfl
  acceptsParam path name value := by
    unfold Gate.acceptsParam
    rw [hclosed]
    rfl
  filterUrl path query hquestion hhash :=
    fst_reduceUrl_of_closed hclosed true hquestion hhash query
  canonicalUrl path query hquestion hhash :=
    fst_reduceUrl_of_closed hclosed false hquestion hhash query
  filterQuery path query := by
    unfold Gate.filterQuery
    rw [hclosed]
    rfl
  close_eq := by
    unfold Gate.close
    rw [hclosed]
    rfl

/-- What closing an open gate comes to. -/
theorem close_of_open (hopen : gate.isOpen = true) :
    gate.close =
      ⟨gate.plugins, closeAll gate.plugins, { gate.withoutRules with isOpen := false }⟩ := by
  unfold Gate.close
  rw [if_pos hopen]

/-- Closing is final, at an open gate after any session. The first time that the gate is closed, its
plugins, which are those registered in the session, are told to close one after the other, and over
the whole session each of them is told once. The result is success if all of them close, and else
the failure of the first that fails. After any further session the gate accepts nothing and leaves
no parameter of a query, closing it does nothing, and the rules in force are none, under the number
that they had when it was closed. -/
theorem close_is_final (limits : Limits) (plugins : List Plugin)
    (operations later : List Operation)
    (hopen : ((new limits plugins).after operations).isOpen = true) :
    let start := new limits plugins
    let gate := start.after operations
    let closing := gate.close
    let closed := closing.gate.after later
    (gate.plugins = (start.events operations).foldl (Event.registered plugins) plugins ∧
      (closing.told, closing.result) = gate.plugins.foldl tell ([], .ok ()) ∧
      closing.told = gate.plugins ∧
      (start.events (operations ++ .close :: later)).flatMap Event.told = gate.plugins) ∧
    ((closing.result = .ok () ↔ ∀ plugin ∈ gate.plugins, plugin.close = .ok ()) ∧
      ∀ error, closing.result = .error error ↔
        ∃ failing cause, FailsFirst gate.plugins failing cause ∧
          error = .pluginClose failing.name cause.message) ∧
    closing.gate.FailsClosed ∧ closed.FailsClosed ∧
    (closing.gate.rules = .empty (gate.generation + 1) ∧ closed.rules = closing.gate.rules ∧
      closed.generation = gate.generation + 1) := by
  intro start gate closing closed
  have hclosing : closing =
      ⟨gate.plugins, closeAll gate.plugins, { gate.withoutRules with isOpen := false }⟩ :=
    close_of_open hopen
  have hclosed : closing.gate.isOpen = false := by rw [hclosing]
  have hlike : Alike closing.gate closed := alike_after_of_closed hclosed later
  have hstill : closed.isOpen = false := (hlike.same Gate.isOpen fun _ => rfl).trans hclosed
  refine ⟨⟨start.plugins_after operations, ?_, ?_, told_events_close hopen later⟩, ⟨?_, ?_⟩,
    failsClosed_of_closed hclosed, failsClosed_of_closed hstill, ?_, ?_, ?_⟩
  · rw [foldl_tell, hclosing, List.nil_append]
  · rw [hclosing]
  · rw [hclosing]
    exact closeAll_eq_ok_iff
  · intro error
    rw [hclosing]
    exact closeAll_eq_error_iff
  · rw [hclosing]
    rfl
  · exact hlike.same Gate.rules fun _ => rfl
  · rw [hlike.same Gate.generation fun _ => rfl, hclosing]
    rfl

/-- A plugin that reads nothing and closes. -/
def quietPlugin : Plugin :=
  .ofParse "quiet" (fun _ _ => .notApplicable)

/-- A plugin that reads nothing and fails to close. -/
def stuckPlugin (name : String) : Plugin :=
  .ofParse name (fun _ _ => .notApplicable) (.error (.config (name ++ " is stuck")))

/-- A session that adds two plugins that fail to close, and a rule. -/
def addingStuckPlugins : List Operation :=
  [.change (.addPlugin (stuckPlugin "first")), .change (.addPlugin (stuckPlugin "second")),
    .change (.addRule ⟨"page", .any, false⟩)]

/-- Three plugins are told, the second one is the first to fail, and after an attempt to reset the
gate still nothing is accepted. -/
theorem close_is_final_stuck_plugins :
    let gate := (new {} [quietPlugin]).after addingStuckPlugins
    let closed := gate.close.gate.after [.change .reset, .close]
    gate.isOpen = true ∧
      gate.close.told.map Plugin.name = ["quiet", "first", "second"] ∧
      gate.close.result = .error (.pluginClose "first" (some "Config error: first is stuck")) ∧
      (gate.acceptsQuery "/shop" "page=2").1 = true ∧
      (closed.acceptsQuery "/shop" "page=2").1 = false ∧ closed.generation = 2 := by
  intro gate closed
  have hopen : gate.isOpen = true := by rfl
  obtain ⟨⟨_, _, htold, _⟩, ⟨_, herror⟩, _, hfails, _, _, hgeneration⟩ :=
    close_is_final {} [quietPlugin] addingStuckPlugins [.change .reset, .close] hopen
  have hfirst : FailsFirst gate.plugins (stuckPlugin "first") (.config "first is stuck") :=
    ⟨[quietPlugin], [stuckPlugin "second"], rfl, by rintro _ (_ | ⟨_, ⟨⟩⟩); rfl, rfl⟩
  have hresult := (herror _).mpr ⟨_, _, hfirst, rfl⟩
  have haccepts : (gate.acceptsQuery "/shop" "page=2").1 = true := by decide +kernel
  refine ⟨hopen, ?_, hresult, haccepts, hfails.acceptsQuery "/shop" "page=2", hgeneration⟩
  exact congrArg (List.map Plugin.name) htold

/-! ## Changes at a closed gate -/

/-- Whether a change adds rules for a blank pattern. -/
def Change.hasBlankPattern (change : Change) : Bool :=
  change.pattern?.any fun pattern => (trim pattern.toList).isEmpty

/-- A closed gate refuses every change and stays as it is. -/
theorem apply_of_isClosed (hclosed : gate.isOpen = false) (change : Change) :
    gate.apply change =
      (.error (if change.hasBlankPattern then .invalidRule .emptyPattern else .closed), gate) := by
  have hrefused : (gate.apply change).1 =
      .error (if change.hasBlankPattern then .invalidRule .emptyPattern else .closed) := by
    cases hblank : change.hasBlankPattern with
    | true =>
      obtain ⟨pattern, hpattern, hempty⟩ := (Option.any_eq_true _ _).mp hblank
      exact apply_of_blank hpattern hempty
    | false => exact apply_of_closed hclosed ((Option.any_eq_false _ _).mp hblank)
  exact Prod.ext hrefused (snd_apply_of_refused hrefused)

/-- A gate that has been closed stays closed. -/
theorem isOpen_after_close (gate : Gate) (operations later : List Operation) :
    (gate.after (operations ++ .close :: later)).isOpen = false := by
  have hclosed : (gate.after operations).close.gate.isOpen = false := by
    unfold Gate.close
    cases hopen : (gate.after operations).isOpen with
    | true => rfl
    | false => exact hopen
  rw [after_append]
  exact ((alike_after_of_closed hclosed later).same Gate.isOpen fun _ => rfl).trans hclosed

/-- A gate that has been closed, whatever was done before and afterwards, refuses every change with
the error that says so and stays as it is. There is one exception: rules for a blank pattern are
refused because of their pattern. -/
theorem closed_gates_refuse_changes (limits : Limits) (plugins : List Plugin)
    (operations later : List Operation) (change : Change) :
    let gate := (new limits plugins).after (operations ++ .close :: later)
    gate.apply change =
        (.error (if change.hasBlankPattern then .invalidRule .emptyPattern else .closed), gate) ∧
      ((gate.apply change).1 = .error .closed ↔ change.hasBlankPattern = false) := by
  intro gate
  have hclosed : gate.isOpen = false := isOpen_after_close (new limits plugins) operations later
  have happly := apply_of_isClosed hclosed change
  refine ⟨happly, ?_⟩
  rw [happly]
  cases change.hasBlankPattern with
  | true => exact ⟨nofun, nofun⟩
  | false => exact ⟨fun _ => rfl, fun _ => rfl⟩

/-- Not every change is refused with the error that says that the gate is closed. -/
theorem blank_pattern_at_closed_gate :
    let gate := (new {} []).after [.close]
    (gate.apply (.addScope " " [])).1 = .error (.invalidRule .emptyPattern) ∧
      ¬∀ change : Change, (gate.apply change).1 = .error .closed := by
  intro gate
  have hblank : (gate.apply (.addScope " " [])).1 = .error (.invalidRule .emptyPattern) := by rfl
  refine ⟨hblank, fun hall => ?_⟩
  have hclosed := hall (.addScope " " [])
  rw [hblank] at hclosed
  cases hclosed

end QueryGate.Gate
