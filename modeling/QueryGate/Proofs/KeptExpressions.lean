import QueryGate.Plugin.Expression

/-!
# Expressions that plugins keep

A plugin for globs or expressions may keep what it compiles. Its store never holds anything but what
a text compiles to, under this text, however often it is read with, emptied and short of room. So a
constraint comes to the same with every store that the plugin can have.
-/

namespace QueryGate.Plugin.ExpressionSyntax

/-- What a plugin with a store is told to do. -/
inductive Use where
  /-- To read a constraint. -/
  | read (constraint : String)
  /-- To release what it keeps. -/
  | close

/-- The store of a plugin after it was used. -/
def storeAfter (form : ExpressionSyntax) (store : Store) : Use → Store
  | .read constraint => (form.parseWith store constraint).2
  | .close => store.clear

variable {form : ExpressionSyntax} {store : Store}

/-- With a store that is coherent a constraint comes to what it comes to without one. -/
theorem fst_parseWith (h : store.Coherent form.compile) (constraint : String) :
    (form.parseWith store constraint).1 = form.parse constraint := by
  unfold parseWith parse
  cases afterKeyword? form.keyword constraint with
  | none => rfl
  | some expression =>
    cases expression with
    | nil => rfl
    | cons c rest =>
      exact congrArg outcome (Lru.value_getOrBuild_of_get? fun _ => h.build_eq)

/-- Reading a constraint leaves a store coherent. -/
theorem coherent_parseWith (h : store.Coherent form.compile) (constraint : String) :
    (form.parseWith store constraint).2.Coherent form.compile := by
  unfold parseWith
  split
  · exact h
  · exact h
  · exact h.getOrBuild _

/-- No use makes a coherent store incoherent. -/
theorem coherent_storeAfter (h : store.Coherent form.compile) (use : Use) :
    (form.storeAfter store use).Coherent form.compile := by
  cases use with
  | read constraint => exact coherent_parseWith h constraint
  | close => exact Lru.coherent_clear form.compile store

/-- The store of a plugin is coherent after any uses. -/
theorem coherent_foldl_storeAfter (h : store.Coherent form.compile) (uses : List Use) :
    (uses.foldl form.storeAfter store).Coherent form.compile := by
  induction uses generalizing store with
  | nil => exact h
  | cons use uses ih => exact ih (coherent_storeAfter h use)

/-- Whatever a plugin was used for before, and however little it can keep, a constraint comes to
what it comes to without a store. -/
theorem fst_parseWith_after (form : ExpressionSyntax) (capacity : Nat) (uses : List Use)
    (constraint : String) :
    (form.parseWith (uses.foldl form.storeAfter (Lru.empty capacity)) constraint).1 =
      form.parse constraint :=
  fst_parseWith (coherent_foldl_storeAfter (Lru.coherent_empty form.compile capacity) uses) constraint

end QueryGate.Plugin.ExpressionSyntax
