import QueryGate.Gate.Answers

/-!
# Counting while segments are looked at

Segments are counted while they are looked at, and looking stops at the first that is one too many.
So what comes of it is decided by the first segments, as many as are allowed, and by how many there
are: judging looks at the first segments up to one that is not permitted, and filtering keeps the
permitted ones among them, the text of which the buffer of the pool holds in the end.
-/

namespace QueryGate.View

open QueryGate.Query

variable {α : Type}

/-! ## Judging -/

/-- Whether there are no more segments than allowed and each of them is permitted. The first ones are
looked at in order, up to one that is not. -/
def allWithin (limit : Nat) (permitted : α → Lookup Bool) (segments : List α) : Lookup Bool := do
  let accepted ← (segments.take limit).allM permitted
  return accepted && decide (segments.length ≤ limit)

/-- With some room left, the first segment is judged and then the others. -/
theorem allWithin_cons (limit : Nat) (permitted : α → Lookup Bool) (segment : α)
    (rest : List α) : allWithin (limit + 1) permitted (segment :: rest) = do
      if ← permitted segment then allWithin limit permitted rest else return false := by
  unfold allWithin
  rw [List.take_succ_cons, List.allM, bind_assoc]
  refine congrArg (permitted segment >>= ·) (funext fun accepted => ?_)
  cases accepted with
  | true => simp only [List.length_cons, Nat.add_le_add_iff_right, if_pos]
  | false => rfl

/-- Counting while judging comes to judging the first segments that there is room for. -/
theorem allCounted_eq_allWithin {limit count room : Nat} (hroom : limit = count + room)
    (permitted : α → Lookup Bool) (segments : List α) :
    allCounted limit permitted count segments = allWithin room permitted segments := by
  induction segments generalizing count room with
  | nil => simp [allCounted, allWithin]
  | cons segment rest ih =>
    rw [allCounted]
    cases room with
    | zero =>
      rw [if_pos (by omega)]
      rfl
    | succ room =>
      have hothers : limit = count + 1 + room := by omega
      rw [if_neg (by omega), allWithin_cons, ih hothers]

/-! ## Filtering -/

/-- A filter gathers what it keeps in reverse order. -/
theorem filterAuxM_eq (p : α → Lookup Bool) (xs acc : List α) :
    List.filterAuxM p xs acc = do return (← xs.filterM p).reverse ++ acc := by
  have hacc (xs acc more : List α) : List.filterAuxM p xs (acc ++ more) = do
      return (← List.filterAuxM p xs acc) ++ more := by
    induction xs generalizing acc with
    | nil => rfl
    | cons x xs ih =>
      simp only [List.filterAuxM, bind_assoc]
      refine congrArg (p x >>= ·) (funext fun keep => ?_)
      rw [← ih]
      cases keep <;> rfl
  have hempty := hacc xs [] acc
  rw [List.nil_append] at hempty
  rw [hempty, List.filterM]
  simp

/-- A filter judges the first item and then filters the others. -/
theorem filterM_cons (p : α → Lookup Bool) (x : α) (xs : List α) :
    (x :: xs).filterM p = do
      let keep ← p x
      let kept ← xs.filterM p
      return if keep then x :: kept else kept := by
  rw [List.filterM, List.filterAuxM, bind_assoc]
  refine congrArg (p x >>= ·) (funext fun keep => ?_)
  rw [filterAuxM_eq]
  cases keep <;> simp

/-- The buffer when segments were appended to it. -/
def pushAll (buffer : Buffer) (kept : List Segment) : Buffer :=
  kept.foldl (fun buffer segment => buffer.pushSegment segment.raw) buffer

/-- Counting while gathering comes to gathering what is permitted among the first segments that there
is room for. -/
theorem gatherCounted_eq {limit count room : Nat} (hroom : limit = count + room)
    (permitted : Segment → Lookup Bool) (buffer : Buffer) (segments : List Segment) :
    gatherCounted limit permitted buffer count segments = do
      let kept ← (segments.take room).filterM permitted
      return (pushAll buffer kept, decide (segments.length ≤ room)) := by
  induction segments generalizing buffer count room with
  | nil => simp [gatherCounted, List.filterM, List.filterAuxM, pushAll]
  | cons segment rest ih =>
    rw [gatherCounted]
    cases room with
    | zero =>
      rw [if_pos (by omega)]
      rfl
    | succ room =>
      have hothers : limit = count + 1 + room := by omega
      rw [if_neg (by omega), List.take_succ_cons, filterM_cons, bind_assoc]
      refine congrArg (permitted segment >>= ·) (funext fun keep => ?_)
      rw [ih hothers, bind_assoc]
      refine congrArg (List.filterM permitted _ >>= ·) (funext fun kept => ?_)
      cases keep <;> simp [pushAll]

/-- What is gathered of a query is what is permitted among its first segments. -/
theorem gather_eq (view : View) (coverage : Coverage) (path query : String) (buffer : Buffer) :
    view.gather coverage path query buffer = do
      let all := segments query
      let kept ← (all.take view.limits.maxParams).filterM (view.permits coverage path)
      return (pushAll buffer kept, decide (all.length ≤ view.limits.maxParams)) :=
  gatherCounted_eq (Nat.zero_add _).symm (view.permits coverage path) buffer (segments query)

/-- What filtering keeps of a query. -/
inductive Selection where
  /-- Nothing, without looking at the segments. -/
  | nothing
  /-- The whole query, without looking at the segments. -/
  | everything
  /-- The permitted ones among the first segments, and whether these were all segments. -/
  | segments (kept : List Segment) (complete : Bool)
  deriving DecidableEq, Repr

/-- Selects what filtering keeps of a query without fragment for a path. -/
def select (view : View) (path query : String) : Lookup Selection := do
  match ← view.extent path query with
  | .nothing => return .nothing
  | .everything => return .everything
  | .segments coverage path =>
    let all := segments query
    let kept ← (all.take view.limits.maxParams).filterM (view.permits coverage path)
    return .segments kept (decide (all.length ≤ view.limits.maxParams))

end QueryGate.View

namespace QueryGate.Gate

open QueryGate.Query

/-- Puts a selection of a query together, in a buffer of the pool if segments were looked at. A
query with too many segments keeps nothing. -/
def assemble (gate : Gate) (query : String) : View.Selection → String × Gate
  | .nothing => ("", gate)
  | .everything => (query, gate)
  | .segments kept complete =>
    let (buffer, pool) := gate.pool.take
    let buffer := View.pushAll buffer kept
    (if complete then buffer.text else "", { gate with pool := pool.give buffer })

/-- A look-up in two steps is two look-ups. -/
theorem lookup_bind {α β : Type} (gate : Gate) (question : Lookup α) (next : α → Lookup β) :
    gate.lookup (question >>= next) =
      (gate.lookup question).2.lookup (next (gate.lookup question).1) :=
  rfl

/-- Gathering segments while they are looked at comes to selecting them first and putting the selection
together afterwards. -/
theorem filterParams_eq (gate : Gate) (path query : String) :
    gate.filterParams path query =
      (gate.lookup (gate.view.select path query)).2.assemble query
        (gate.lookup (gate.view.select path query)).1 := by
  have hview : (gate.lookup (gate.view.extent path query)).2.view = gate.view := rfl
  unfold filterParams View.select
  rw [lookup_bind]
  generalize gate.lookup (gate.view.extent path query) = found at hview
  obtain ⟨extent, later⟩ := found
  cases extent with
  | nothing => rfl
  | everything => rfl
  | segments coverage path =>
    dsimp only at hview ⊢
    rw [hview, View.gather_eq]
    rfl

end QueryGate.Gate
