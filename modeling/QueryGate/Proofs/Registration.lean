import QueryGate.Proofs.Consistency

/-!
# Registered plugins

The plugins of a gate are those that it was given when it was new and those that were added in the
session, in order. A reset returns to the given ones, which no operation changes.
-/

namespace QueryGate.Gate

/-- The plugins that are registered after an event: one that is added stands behind the others, and
a reset returns to the given ones. -/
def Event.registered (given plugins : List Plugin) : Event → List Plugin
  | ⟨.change (.addPlugin plugin), .done (.ok ())⟩ => plugins ++ [plugin]
  | ⟨.change .reset, .done (.ok ())⟩ => given
  | _ => plugins

/-- The plugins stay when a policy is installed. -/
theorem plugins_install (gate : Gate) (policy : Policy) :
    (gate.install policy).2.plugins = gate.plugins := by
  unfold install
  split
  · dsimp only
    split <;> rfl
  · rfl

/-- The plugins stay when a text is loaded. -/
theorem plugins_loadText (gate : Gate) (text : String) :
    (gate.loadText text).2.plugins = gate.plugins := by
  unfold loadText
  split
  · split
    · rfl
    · split
      · rfl
      · exact gate.plugins_install _
  · rfl

/-- A change registers a plugin if it adds one, and returns to the given ones if it is a reset. -/
theorem plugins_apply (gate : Gate) (change : Change) :
    (gate.apply change).2.plugins =
      Event.registered gate.givenPlugins gate.plugins
        ⟨.change change, .done (gate.apply change).1⟩ := by
  cases change with
  | loadText text => exact gate.plugins_loadText text
  | loadFile contents =>
    change (gate.loadFile contents).2.plugins = gate.plugins
    unfold loadFile
    split
    · split
      · rfl
      · split
        · rfl
        · split
          · rfl
          · exact gate.plugins_loadText _
    · rfl
  | addRule rule => exact gate.plugins_install _
  | addScope pattern params =>
    change (gate.addScope pattern params).2.plugins = gate.plugins
    unfold addScope
    split
    · rfl
    · exact gate.plugins_install _
  | setCallback callback =>
    change (gate.setCallback callback).2.plugins = gate.plugins
    unfold setCallback
    split <;> rfl
  | clear => exact gate.plugins_install _
  | reset =>
    change gate.reset.2.plugins =
      Event.registered gate.givenPlugins gate.plugins ⟨.change .reset, .done gate.reset.1⟩
    unfold Gate.reset
    split <;> rfl
  | addPlugin plugin =>
    change (gate.addPlugin plugin).2.plugins = Event.registered gate.givenPlugins gate.plugins
      ⟨.change (.addPlugin plugin), .done (gate.addPlugin plugin).1⟩
    unfold addPlugin
    split <;> rfl

/-- The given plugins stay. -/
theorem givenPlugins_perform (gate : Gate) (operation : Operation) :
    (gate.perform operation).2.givenPlugins = gate.givenPlugins := by
  cases operation with
  | change change =>
    change (gate.apply change).2.givenPlugins = gate.givenPlugins
    have happlied := gate.applied_apply change
    generalize gate.apply change = update at happlied
    cases happlied <;> rfl
  | close =>
    change gate.close.gate.givenPlugins = gate.givenPlugins
    unfold Gate.close
    split <;> rfl
  | ask question => exact (gate.alike_ask question).same Gate.givenPlugins fun _ => rfl
  | look look => rfl

/-- A gate keeps the given plugins over a session. -/
theorem givenPlugins_after (gate : Gate) (operations : List Operation) :
    (gate.after operations).givenPlugins = gate.givenPlugins := by
  induction operations generalizing gate with
  | nil => rfl
  | cons operation operations ih => exact (ih _).trans (gate.givenPlugins_perform operation)

/-- What an operation does to the registered plugins. -/
theorem plugins_perform (gate : Gate) (operation : Operation) :
    (gate.perform operation).2.plugins =
      Event.registered gate.givenPlugins gate.plugins ⟨operation, (gate.perform operation).1⟩ := by
  cases operation with
  | change change => exact gate.plugins_apply change
  | close =>
    change gate.close.gate.plugins = gate.plugins
    unfold Gate.close
    split <;> rfl
  | ask question => exact (gate.alike_ask question).same Gate.plugins fun _ => rfl
  | look look => rfl

/-- The plugins of a gate after a session are those that are registered in it. -/
theorem plugins_after (gate : Gate) (operations : List Operation) :
    (gate.after operations).plugins =
      (gate.events operations).foldl (Event.registered gate.givenPlugins) gate.plugins := by
  induction operations generalizing gate with
  | nil => rfl
  | cons operation operations ih =>
    rw [after, events, List.foldl_cons, ih, plugins_perform, givenPlugins_perform]

end QueryGate.Gate
