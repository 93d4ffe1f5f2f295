import Mathlib.Data.List.AList
import CkbLightClient.Core.Header

/-!
# CkbLightClient — `resolve_tx`

Before a transaction is verified, `resolve_tx` looks up the cells its inputs spend and its
cell deps load, in the store of the light client. A cell is asked for once per out point
and eager flag: the closure `resolve_cell` remembers every live cell in `resolved_cells`.
A dep group cell is loaded with its data, which lists the out points it stands for.

* `parseDepGroupData` — the two checks of `parse_dep_group_data` around molecule's
  decoder;
* `resolveCell` — the closure with its table; `resolveCellUncached` asks the store every
  time;
* `resolveInputs`, `resolveCellDep`, `resolveCellDeps`, `resolveTxWith` — the loops of
  `resolve_tx`, over either closure; `resolveTx` is the source's, with `resolve_cell`;
* `contextualVerify`, `verifyTx` — `verify_tx`, around the verifiers of `ckb_verification`.

The results:

* `resolveTx_eq_uncached` — the table changes nothing: `resolve_tx` returns what it would
  return if it asked the store for every cell;
* `resolveTx_ok` — what a resolved transaction holds: the inputs are pairwise distinct and
  resolved to their live cells, in order, and every cell dep and dep group is live;
* `resolveTx_ne_panic` — the `expect` on a dep group's data never fires when the store
  loads the data of every cell it is asked for eagerly;
* `verifyTx_ok` — a transaction `verify_tx` accepts spends distinct live cells and passed
  every verifier, and its cycles are the script verifier's.
-/

namespace CkbLightClient

/-- `packed::OutPoint`: a transaction hash and an output index. -/
structure OutPoint where
  txHash : Nat
  index : Nat
  deriving DecidableEq, Repr

/-- `CellMeta`, through what `resolve_tx` reads: the cell's out point and the data loaded
with it (`mem_cell_data`, present when the cell was asked for eagerly). -/
structure CellMeta where
  outPoint : OutPoint
  memCellData : Option (List UInt8)
  deriving DecidableEq, Repr

/-- `CellStatus`. -/
inductive CellStatus where
  | live (cellMeta : CellMeta)
  | dead
  | unknown
  deriving DecidableEq, Repr

/-- `OutPointError`, the variants `resolve_tx` returns. -/
inductive OutPointError where
  | dead (outPoint : OutPoint)
  | unknown (outPoint : OutPoint)
  | invalidDepGroup (outPoint : OutPoint)
  deriving DecidableEq, Repr

/-- `DepType`. -/
inductive DepType where
  | code
  | depGroup
  deriving DecidableEq, Repr

/-- `packed::CellDep`. -/
structure CellDep where
  outPoint : OutPoint
  depType : DepType
  deriving DecidableEq, Repr

/-- `TransactionView`, through what `resolve_tx` reads: the out points of its inputs
(`input_pts_iter`) and its cell deps. -/
structure TransactionView where
  inputs : List OutPoint
  cellDeps : List CellDep
  deriving DecidableEq, Repr

/-- `ResolvedTransaction`. -/
structure ResolvedTransaction where
  transaction : TransactionView
  resolvedInputs : List CellMeta
  resolvedCellDeps : List CellMeta
  resolvedDepGroups : List CellMeta
  deriving DecidableEq, Repr

/-- The collaborators of `resolve_tx` outside `src/`: the store's `CellProvider::cell` and
molecule's `OutPointVec::from_slice`, with its error as `to_string` renders it. -/
structure CellContext where
  cell : OutPoint → Bool → CellStatus
  outPointVecFromSlice : List UInt8 → Except String (List OutPoint)

variable (ctx : CellContext)

/-- `parse_dep_group_data`: the out points a dep group's data lists; neither the data nor
the list may be empty. -/
def parseDepGroupData (slice : List UInt8) : Except String (List OutPoint) :=
  if slice.isEmpty then .error "data is empty"
  else
    match ctx.outPointVecFromSlice slice with
    | .ok v => if v.isEmpty then .error "dep group is empty" else .ok v
    | .error err => .error err

/-! ## The closure `resolve_cell` -/

/-- The table `resolved_cells`, keyed by out point and eager flag. -/
abbrev ResolvedCells := AList fun _ : OutPoint × Bool => CellMeta

/-- The monad of `resolve_tx`: the table, and an early `Err` or a panic. -/
abbrev ResolveM := StateT ResolvedCells (Except (Exit OutPointError))

/-- A cell as the store reports it: a `Live` cell, or the `Dead` or `Unknown` error. -/
def cellResult (outPoint : OutPoint) (eagerLoad : Bool) : Except (Exit OutPointError) CellMeta :=
  match ctx.cell outPoint eagerLoad with
  | .dead => .error (.err (.dead outPoint))
  | .unknown => .error (.err (.unknown outPoint))
  | .live cellMeta => .ok cellMeta

/-- `resolve_cell`: a cell resolved before with the same flag comes from the table; any
other from the store, and a live one is remembered. -/
def resolveCell (outPoint : OutPoint) (eagerLoad : Bool) : ResolveM CellMeta :=
  fun resolvedCells =>
    match resolvedCells.lookup (outPoint, eagerLoad) with
    | some cellMeta => .ok (cellMeta, resolvedCells)
    | none =>
        (cellResult ctx outPoint eagerLoad).map fun cellMeta =>
          (cellMeta, resolvedCells.insert (outPoint, eagerLoad) cellMeta)

/-- The closure without its table: every call asks the store. -/
def resolveCellUncached (outPoint : OutPoint) (eagerLoad : Bool) : ResolveM CellMeta :=
  StateT.lift (cellResult ctx outPoint eagerLoad)

/-! ## The loops of `resolve_tx`, over a closure -/

section Loops

variable (resolve : OutPoint → Bool → ResolveM CellMeta)

/-- The loop over the inputs: an out point already in `current_inputs` is `Dead`; each
input is resolved without its data. -/
def resolveInputs (currentInputs : List OutPoint) : List OutPoint → ResolveM (List CellMeta)
  | [] => pure []
  | outPoint :: rest =>
      if outPoint ∈ currentInputs then throw (.err (.dead outPoint))
      else do
        let cellMeta ← resolve outPoint false
        let cellMetas ← resolveInputs (outPoint :: currentInputs) rest
        pure (cellMeta :: cellMetas)

/-- The out points of a dep group, each resolved without its data. -/
def resolveSubOutPoints : List OutPoint → ResolveM (List CellMeta)
  | [] => pure []
  | subOutPoint :: rest => do
      let cellMeta ← resolve subOutPoint false
      let cellMetas ← resolveSubOutPoints rest
      pure (cellMeta :: cellMetas)

/-- One cell dep: the cell deps and dep groups it adds. A dep group is loaded with its data
(`expect` panics without it), and stands for the out points its data lists. -/
def resolveCellDep (cellDep : CellDep) : ResolveM (List CellMeta × List CellMeta) :=
  match cellDep.depType with
  | .depGroup => do
      let outpoint := cellDep.outPoint
      let depGroup ← resolve outpoint true
      match depGroup.memCellData with
      | none => throw .panic
      | some data => do
          let subOutPoints ← StateT.lift <|
            (parseDepGroupData ctx data).mapError fun _ => .err (.invalidDepGroup outpoint)
          let cellDeps ← resolveSubOutPoints resolve subOutPoints
          pure (cellDeps, [depGroup])
  | .code => do
      let cellMeta ← resolve cellDep.outPoint false
      pure ([cellMeta], [])

/-- The loop over the cell deps. -/
def resolveCellDeps : List CellDep → ResolveM (List CellMeta × List CellMeta)
  | [] => pure ([], [])
  | cellDep :: rest => do
      let (cellDeps, depGroups) ← resolveCellDep ctx resolve cellDep
      let (cellDeps', depGroups') ← resolveCellDeps rest
      pure (cellDeps ++ cellDeps', depGroups ++ depGroups')

/-- The body of `resolve_tx`, over a closure. -/
def resolveTxWith (transaction : TransactionView) : ResolveM ResolvedTransaction := do
  let resolvedInputs ← resolveInputs resolve [] transaction.inputs
  let (resolvedCellDeps, resolvedDepGroups) ← resolveCellDeps ctx resolve transaction.cellDeps
  pure ⟨transaction, resolvedInputs, resolvedCellDeps, resolvedDepGroups⟩

end Loops

/-- `resolve_tx`, from an empty table. -/
def resolveTx (transaction : TransactionView) : Except (Exit OutPointError) ResolvedTransaction :=
  (resolveTxWith ctx (resolveCell ctx) transaction).run' ∅

/-- `resolve_tx` with a closure that asks the store for every cell. -/
def resolveTxUncached (transaction : TransactionView) :
    Except (Exit OutPointError) ResolvedTransaction :=
  (resolveTxWith ctx (resolveCellUncached ctx) transaction).run' ∅

/-! ## The table changes nothing -/

theorem cellResult_eq_ok {outPoint : OutPoint} {eagerLoad : Bool} {cellMeta : CellMeta} :
    cellResult ctx outPoint eagerLoad = .ok cellMeta ↔
      ctx.cell outPoint eagerLoad = .live cellMeta := by
  unfold cellResult
  split <;> simp_all

/-- Every cell in the table is the store's live cell for its out point and flag. -/
def Coherent (resolvedCells : ResolvedCells) : Prop :=
  ∀ key cellMeta, resolvedCells.lookup key = some cellMeta →
    ctx.cell key.1 key.2 = .live cellMeta

theorem coherent_empty : Coherent ctx ∅ := fun _ _ h => nomatch h

theorem Coherent.insert {resolvedCells : ResolvedCells} (h : Coherent ctx resolvedCells)
    {outPoint : OutPoint} {eagerLoad : Bool} {cellMeta : CellMeta}
    (hlive : ctx.cell outPoint eagerLoad = .live cellMeta) :
    Coherent ctx (resolvedCells.insert (outPoint, eagerLoad) cellMeta) := by
  intro key cellMeta' hkey
  by_cases hk : key = (outPoint, eagerLoad)
  · subst hk
    rw [AList.lookup_insert] at hkey
    exact Option.some.inj hkey ▸ hlive
  · exact h key cellMeta' (by rwa [AList.lookup_insert_ne hk] at hkey)

/-- `x`, from a coherent table, returns what `y` returns from any table, and leaves the
table coherent. -/
def Agrees {α : Type} (x y : ResolveM α) : Prop :=
  ∀ resolvedCells, Coherent ctx resolvedCells → ∀ s,
    (x.run resolvedCells).map Prod.fst = (y.run s).map Prod.fst ∧
      ∀ a resolvedCells', x.run resolvedCells = .ok (a, resolvedCells') →
        Coherent ctx resolvedCells'

namespace Agrees

variable {ctx}

theorem pure {α : Type} (a : α) : Agrees ctx (pure a) (pure a) :=
  fun _ h _ => ⟨rfl, fun _ _ hrun => by cases hrun; exact h⟩

theorem throw {α : Type} (e : Exit OutPointError) :
    Agrees ctx (throw e : ResolveM α) (throw e) :=
  fun _ _ _ => ⟨rfl, fun _ _ hrun => nomatch hrun⟩

theorem lift {α : Type} (z : Except (Exit OutPointError) α) :
    Agrees ctx (StateT.lift z) (StateT.lift z) := by
  intro _ h _
  cases z
  · exact ⟨rfl, fun _ _ hrun => nomatch hrun⟩
  · exact ⟨rfl, fun _ _ hrun => by cases hrun; exact h⟩

/-- Agreement is kept by sequencing: the first steps agree, and then the rest agree
whatever the first steps returned. -/
theorem bind {α β : Type} {x y : ResolveM α} {f g : α → ResolveM β} (hxy : Agrees ctx x y)
    (hfg : ∀ a, Agrees ctx (f a) (g a)) : Agrees ctx (x >>= f) (y >>= g) := by
  intro resolvedCells hcells s
  obtain ⟨hrun, hcoherent⟩ := hxy resolvedCells hcells s
  simp only [StateT.run_bind]
  rcases hx : x.run resolvedCells with e | ⟨a, resolvedCells'⟩ <;>
    rcases hy : y.run s with e' | ⟨b, s'⟩ <;>
    rw [hx, hy] at hrun <;> simp only [Except.map, Except.error.injEq, reduceCtorEq,
      Except.ok.injEq] at hrun
  · subst hrun
    exact ⟨rfl, fun _ _ h => nomatch h⟩
  · subst hrun
    exact hfg a resolvedCells' (hcoherent a resolvedCells' hx) s'

end Agrees

/-- The closure with its table agrees with the closure that asks the store. -/
theorem resolveCell_agrees (outPoint : OutPoint) (eagerLoad : Bool) :
    Agrees ctx (resolveCell ctx outPoint eagerLoad)
      (resolveCellUncached ctx outPoint eagerLoad) := by
  intro resolvedCells hcells s
  simp only [StateT.run, resolveCell, resolveCellUncached, StateT.lift]
  cases hlookup : resolvedCells.lookup (outPoint, eagerLoad) with
  | some cellMeta =>
    have hresult : cellResult ctx outPoint eagerLoad = .ok cellMeta :=
      (cellResult_eq_ok ctx).mpr (hcells _ _ hlookup)
    refine ⟨by rw [hresult]; rfl, fun _ _ hrun => ?_⟩
    cases hrun
    exact hcells
  | none =>
    cases hresult : cellResult ctx outPoint eagerLoad with
    | error e => exact ⟨rfl, fun _ _ hrun => nomatch hrun⟩
    | ok cellMeta =>
      refine ⟨rfl, fun _ _ hrun => ?_⟩
      cases hrun
      exact hcells.insert ctx ((cellResult_eq_ok ctx).mp hresult)

section Loops

variable {ctx} {resolve resolve' : OutPoint → Bool → ResolveM CellMeta}
  (hresolve : ∀ outPoint eagerLoad,
    Agrees ctx (resolve outPoint eagerLoad) (resolve' outPoint eagerLoad))
include hresolve

theorem resolveInputs_agrees (currentInputs inputs : List OutPoint) :
    Agrees ctx (resolveInputs resolve currentInputs inputs)
      (resolveInputs resolve' currentInputs inputs) := by
  induction inputs generalizing currentInputs with
  | nil => exact .pure _
  | cons outPoint rest ih =>
    by_cases hseen : outPoint ∈ currentInputs
    · simp only [resolveInputs, if_pos hseen]
      exact .throw _
    · simp only [resolveInputs, if_neg hseen]
      exact (hresolve _ _).bind fun _ => (ih _).bind fun _ => .pure _

theorem resolveSubOutPoints_agrees (subOutPoints : List OutPoint) :
    Agrees ctx (resolveSubOutPoints resolve subOutPoints)
      (resolveSubOutPoints resolve' subOutPoints) := by
  induction subOutPoints with
  | nil => exact .pure _
  | cons subOutPoint rest ih =>
    exact (hresolve _ _).bind fun _ => ih.bind fun _ => .pure _

theorem resolveCellDep_agrees (cellDep : CellDep) :
    Agrees ctx (resolveCellDep ctx resolve cellDep) (resolveCellDep ctx resolve' cellDep) := by
  cases hdep : cellDep.depType
  · simp only [resolveCellDep, hdep]
    exact (hresolve _ _).bind fun _ => .pure _
  · simp only [resolveCellDep, hdep]
    refine (hresolve _ _).bind fun depGroup => ?_
    cases depGroup.memCellData
    · exact .throw _
    · exact (Agrees.lift _).bind fun _ =>
        (resolveSubOutPoints_agrees hresolve _).bind fun _ => .pure _

theorem resolveCellDeps_agrees (cellDeps : List CellDep) :
    Agrees ctx (resolveCellDeps ctx resolve cellDeps) (resolveCellDeps ctx resolve' cellDeps) := by
  induction cellDeps with
  | nil => exact .pure _
  | cons cellDep rest ih =>
    exact (resolveCellDep_agrees hresolve _).bind fun _ => ih.bind fun _ => .pure _

theorem resolveTxWith_agrees (transaction : TransactionView) :
    Agrees ctx (resolveTxWith ctx resolve transaction) (resolveTxWith ctx resolve' transaction) :=
  (resolveInputs_agrees hresolve _ _).bind fun _ =>
    (resolveCellDeps_agrees hresolve _).bind fun _ => .pure _

end Loops

/-- The body run with the table, from an empty table, returns what it returns asking the
store for every cell. -/
theorem run'_resolveTxWith_eq (transaction : TransactionView) :
    (resolveTxWith ctx (resolveCell ctx) transaction).run' ∅ =
      (resolveTxWith ctx (resolveCellUncached ctx) transaction).run' ∅ := by
  have h := (resolveTxWith_agrees (resolveCell_agrees ctx) transaction ∅ (coherent_empty ctx) ∅).1
  exact h

/-- **The table changes nothing.** `resolve_tx`, which remembers every live cell it
resolves and answers later requests for the same out point and flag from its table,
returns exactly what it would return if it asked the store for every cell: the same
resolved transaction, or the same error. -/
theorem resolveTx_eq_uncached (transaction : TransactionView) :
    resolveTx ctx transaction = resolveTxUncached ctx transaction :=
  run'_resolveTxWith_eq ctx transaction

/-! ## What a resolved transaction holds -/

/-- `parse_dep_group_data` accepts data exactly when it is not empty and molecule decodes it
to a non-empty list. -/
theorem parseDepGroupData_eq_ok {slice : List UInt8} {subOutPoints : List OutPoint} :
    parseDepGroupData ctx slice = .ok subOutPoints ↔
      slice ≠ [] ∧ ctx.outPointVecFromSlice slice = .ok subOutPoints ∧ subOutPoints ≠ [] := by
  unfold parseDepGroupData
  by_cases hslice : slice = []
  · simp [hslice]
  · cases hdecode : ctx.outPointVecFromSlice slice with
    | error err => simp [hslice]
    | ok v =>
      by_cases hv : v = []
      · simp [hslice, hv]
      · simp only [hslice, hv, List.isEmpty_iff, if_false, Except.ok.injEq, ne_eq,
          not_false_eq_true, true_and]
        exact ⟨fun h => ⟨h, h ▸ hv⟩, And.left⟩

/-- The out points a cell dep stands for, as the store and the dep group's data say: a code
dep its own, a dep group those its data lists. -/
def StandsFor (cellDep : CellDep) (outPoint : OutPoint) : Prop :=
  match cellDep.depType with
  | .code => outPoint = cellDep.outPoint
  | .depGroup => ∃ depGroup data subOutPoints,
      ctx.cell cellDep.outPoint true = .live depGroup ∧ depGroup.memCellData = some data ∧
        ctx.outPointVecFromSlice data = .ok subOutPoints ∧ outPoint ∈ subOutPoints

/-- A dep group as `resolve_tx` accepts it: its cell, loaded with its data, is live, and the
data is a non-empty encoding of a non-empty list of out points. -/
def DepGroupAccepted (cellDep : CellDep) (depGroup : CellMeta) : Prop :=
  ctx.cell cellDep.outPoint true = .live depGroup ∧
    ∃ data subOutPoints, depGroup.memCellData = some data ∧ data ≠ [] ∧
      ctx.outPointVecFromSlice data = .ok subOutPoints ∧ subOutPoints ≠ []

section Uncached

variable {ctx}

theorem run_bind_eq_ok {α β : Type} {x : ResolveM α} {f : α → ResolveM β} {s s' : ResolvedCells}
    {b : β} :
    (x >>= f).run s = .ok (b, s') ↔
      ∃ a s'', x.run s = .ok (a, s'') ∧ (f a).run s'' = .ok (b, s') := by
  simp [StateT.run_bind, bind_eq_ok]

theorem resolveCellUncached_run_eq_ok {outPoint : OutPoint} {eagerLoad : Bool}
    {s s' : ResolvedCells} {cellMeta : CellMeta} :
    (resolveCellUncached ctx outPoint eagerLoad).run s = .ok (cellMeta, s') ↔
      ctx.cell outPoint eagerLoad = .live cellMeta ∧ s' = s := by
  rw [← cellResult_eq_ok]
  simp only [resolveCellUncached, StateT.run_lift]
  cases cellResult ctx outPoint eagerLoad <;> simp [eq_comm]

/-- A collaborator's result, lifted with its error mapped, succeeds when the collaborator
does, and leaves the table as it is. -/
theorem run_lift_mapError_eq_ok {α : Type} {x : Except String α}
    {f : String → Exit OutPointError} {s s' : ResolvedCells} {a : α} :
    (StateT.lift (x.mapError f) : ResolveM α).run s = .ok (a, s') ↔ x = .ok a ∧ s' = s := by
  cases x <;> simp [Except.mapError, StateT.run_lift, eq_comm]

theorem resolveInputs_uncached_ok {currentInputs inputs : List OutPoint}
    {s s' : ResolvedCells} {cellMetas : List CellMeta}
    (h : (resolveInputs (resolveCellUncached ctx) currentInputs inputs).run s =
      .ok (cellMetas, s')) :
    (∀ outPoint ∈ inputs, outPoint ∉ currentInputs) ∧ inputs.Nodup ∧
      List.Forall₂ (fun outPoint cellMeta => ctx.cell outPoint false = .live cellMeta)
        inputs cellMetas := by
  induction inputs generalizing currentInputs s cellMetas with
  | nil =>
    cases h
    exact ⟨nofun, List.nodup_nil, .nil⟩
  | cons outPoint rest ih =>
    by_cases hseen : outPoint ∈ currentInputs
    · simp only [resolveInputs, if_pos hseen] at h
      cases h
    · simp only [resolveInputs, if_neg hseen, run_bind_eq_ok] at h
      obtain ⟨cellMeta, s₁, hcell, cellMetas', s₂, hrest, hpure⟩ := h
      cases hpure
      obtain ⟨hfresh, hnodup, hforall⟩ := ih hrest
      refine ⟨List.forall_mem_cons.mpr ⟨hseen, fun x hx hxs => ?_⟩,
        List.nodup_cons.mpr ⟨fun hmem => hfresh _ hmem (List.mem_cons_self _ _), hnodup⟩,
        .cons (resolveCellUncached_run_eq_ok.mp hcell).1 hforall⟩
      exact hfresh x hx (List.mem_cons_of_mem _ hxs)

theorem resolveSubOutPoints_uncached_ok {subOutPoints : List OutPoint} {s s' : ResolvedCells}
    {cellMetas : List CellMeta}
    (h : (resolveSubOutPoints (resolveCellUncached ctx) subOutPoints).run s =
      .ok (cellMetas, s')) :
    ∀ cellMeta ∈ cellMetas, ∃ outPoint ∈ subOutPoints,
      ctx.cell outPoint false = .live cellMeta := by
  induction subOutPoints generalizing s cellMetas with
  | nil => cases h; exact nofun
  | cons subOutPoint rest ih =>
    simp only [resolveSubOutPoints, run_bind_eq_ok] at h
    obtain ⟨cellMeta, s₁, hcell, cellMetas', s₂, hrest, hpure⟩ := h
    cases hpure
    intro cellMeta' hmem
    rcases List.mem_cons.mp hmem with rfl | hmem
    · exact ⟨subOutPoint, List.mem_cons_self _ _, (resolveCellUncached_run_eq_ok.mp hcell).1⟩
    · obtain ⟨outPoint, hop, hlive⟩ := ih hrest cellMeta' hmem
      exact ⟨outPoint, List.mem_cons_of_mem _ hop, hlive⟩

theorem resolveCellDep_uncached_ok {cellDep : CellDep} {s s' : ResolvedCells}
    {cellDeps depGroups : List CellMeta}
    (h : (resolveCellDep ctx (resolveCellUncached ctx) cellDep).run s =
      .ok ((cellDeps, depGroups), s')) :
    (∀ cellMeta ∈ cellDeps, ∃ outPoint, StandsFor ctx cellDep outPoint ∧
      ctx.cell outPoint false = .live cellMeta) ∧
    List.Forall₂ (DepGroupAccepted ctx)
      ([cellDep].filter fun cellDep => cellDep.depType = .depGroup) depGroups := by
  cases hdep : cellDep.depType
  · simp only [resolveCellDep, hdep, run_bind_eq_ok] at h
    obtain ⟨cellMeta, s₁, hcell, hpure⟩ := h
    cases hpure
    refine ⟨fun cellMeta' hmem => ⟨cellDep.outPoint, ?_, ?_⟩, by simp [hdep]⟩
    · simp only [StandsFor, hdep]
    · rw [List.mem_singleton.mp hmem]
      exact (resolveCellUncached_run_eq_ok.mp hcell).1
  · simp only [resolveCellDep, hdep, run_bind_eq_ok] at h
    obtain ⟨depGroup, s₁, hgroup, h⟩ := h
    have hlive := (resolveCellUncached_run_eq_ok.mp hgroup).1
    cases hdata : depGroup.memCellData with
    | none => simp only [hdata] at h; cases h
    | some data =>
      simp only [hdata, run_bind_eq_ok, run_lift_mapError_eq_ok] at h
      obtain ⟨subOutPoints, s₂, ⟨hparse, rfl⟩, cellDeps', s₃, hsubs, hdone⟩ := h
      cases hdone
      obtain ⟨hne, hdecode, hsubsne⟩ := (parseDepGroupData_eq_ok ctx).mp hparse
      refine ⟨fun cellMeta hmem => ?_, ?_⟩
      · obtain ⟨outPoint, hop, hlive'⟩ := resolveSubOutPoints_uncached_ok hsubs cellMeta hmem
        refine ⟨outPoint, ?_, hlive'⟩
        simp only [StandsFor, hdep]
        exact ⟨depGroup, data, subOutPoints, hlive, hdata, hdecode, hop⟩
      · simp only [List.filter_cons, hdep, decide_True, if_true, List.filter_nil]
        exact .cons ⟨hlive, data, subOutPoints, hdata, hne, hdecode, hsubsne⟩ .nil

theorem resolveCellDeps_uncached_ok {deps : List CellDep} {s s' : ResolvedCells}
    {cellDeps depGroups : List CellMeta}
    (h : (resolveCellDeps ctx (resolveCellUncached ctx) deps).run s =
      .ok ((cellDeps, depGroups), s')) :
    (∀ cellMeta ∈ cellDeps, ∃ cellDep ∈ deps, ∃ outPoint, StandsFor ctx cellDep outPoint ∧
      ctx.cell outPoint false = .live cellMeta) ∧
    List.Forall₂ (DepGroupAccepted ctx)
      (deps.filter fun cellDep => cellDep.depType = .depGroup) depGroups := by
  induction deps generalizing s cellDeps depGroups with
  | nil => cases h; exact ⟨nofun, .nil⟩
  | cons cellDep rest ih =>
    simp only [resolveCellDeps, run_bind_eq_ok] at h
    obtain ⟨⟨cellDeps₁, depGroups₁⟩, s₁, hfirst, ⟨cellDeps₂, depGroups₂⟩, s₂, hrest, hpure⟩ := h
    cases hpure
    obtain ⟨hcells₁, hgroups₁⟩ := resolveCellDep_uncached_ok hfirst
    obtain ⟨hcells₂, hgroups₂⟩ := ih hrest
    refine ⟨fun cellMeta hmem => ?_, ?_⟩
    · rcases List.mem_append.mp hmem with hmem | hmem
      · obtain ⟨outPoint, hstands, hlive⟩ := hcells₁ cellMeta hmem
        exact ⟨cellDep, List.mem_cons_self _ _, outPoint, hstands, hlive⟩
      · obtain ⟨cellDep', hdep, outPoint, hstands, hlive⟩ := hcells₂ cellMeta hmem
        exact ⟨cellDep', List.mem_cons_of_mem _ hdep, outPoint, hstands, hlive⟩
    · rw [← List.singleton_append, List.filter_append]
      exact List.rel_append hgroups₁ hgroups₂

end Uncached

/-- What a resolution that asks the store for every cell returns when it succeeds. -/
theorem resolveTxUncached_ok {transaction : TransactionView} {resolved : ResolvedTransaction}
    (h : resolveTxUncached ctx transaction = .ok resolved) :
    resolved.transaction = transaction ∧ transaction.inputs.Nodup ∧
      List.Forall₂ (fun outPoint cellMeta => ctx.cell outPoint false = .live cellMeta)
        transaction.inputs resolved.resolvedInputs ∧
      (∀ cellMeta ∈ resolved.resolvedCellDeps, ∃ cellDep ∈ transaction.cellDeps,
        ∃ outPoint, StandsFor ctx cellDep outPoint ∧ ctx.cell outPoint false = .live cellMeta) ∧
      List.Forall₂ (DepGroupAccepted ctx)
        (transaction.cellDeps.filter fun cellDep => cellDep.depType = .depGroup)
        resolved.resolvedDepGroups := by
  rw [resolveTxUncached, StateT.run'_eq] at h
  rcases hrun : (resolveTxWith ctx (resolveCellUncached ctx) transaction).run ∅ with
    e | ⟨resolved', s⟩ <;> rw [hrun] at h <;> cases h
  simp only [resolveTxWith, run_bind_eq_ok] at hrun
  obtain ⟨resolvedInputs, s₁, hinputs, ⟨cellDeps, depGroups⟩, s₂, hdeps, hpure⟩ := hrun
  cases hpure
  obtain ⟨-, hnodup, hforall⟩ := resolveInputs_uncached_ok hinputs
  exact ⟨rfl, hnodup, hforall, resolveCellDeps_uncached_ok hdeps⟩

/-- **What a resolved transaction holds.** When `resolve_tx` succeeds, its inputs are
pairwise distinct (a transaction never spends one cell twice) and resolved, in order, to
the live cells the store has for them; every resolved cell dep is the live cell of an out
point that one of the transaction's cell deps stands for; and the dep groups are, in
order, the live cells of the transaction's dep group deps, each loaded with data that lists
out points. -/
theorem resolveTx_ok {transaction : TransactionView} {resolved : ResolvedTransaction}
    (h : resolveTx ctx transaction = .ok resolved) :
    resolved.transaction = transaction ∧ transaction.inputs.Nodup ∧
      List.Forall₂ (fun outPoint cellMeta => ctx.cell outPoint false = .live cellMeta)
        transaction.inputs resolved.resolvedInputs ∧
      (∀ cellMeta ∈ resolved.resolvedCellDeps, ∃ cellDep ∈ transaction.cellDeps,
        ∃ outPoint, StandsFor ctx cellDep outPoint ∧ ctx.cell outPoint false = .live cellMeta) ∧
      List.Forall₂ (DepGroupAccepted ctx)
        (transaction.cellDeps.filter fun cellDep => cellDep.depType = .depGroup)
        resolved.resolvedDepGroups :=
  resolveTxUncached_ok ctx ((run'_resolveTxWith_eq ctx transaction).symm.trans h)

/-- A store in which every cell is live, loaded with the data `[1]` when asked for eagerly,
and whose dep groups' data lists the out point `⟨9, 0⟩`. -/
def liveStore : CellContext where
  cell outPoint eagerLoad := .live ⟨outPoint, if eagerLoad then some [1] else none⟩
  outPointVecFromSlice _ := .ok [⟨9, 0⟩]

theorem resolveTx_ok_example :
    let transaction : TransactionView := ⟨[⟨1, 0⟩, ⟨2, 0⟩], [⟨⟨3, 0⟩, .depGroup⟩, ⟨⟨4, 0⟩, .code⟩]⟩
    let resolved : ResolvedTransaction := ⟨transaction, [⟨⟨1, 0⟩, none⟩, ⟨⟨2, 0⟩, none⟩],
      [⟨⟨9, 0⟩, none⟩, ⟨⟨4, 0⟩, none⟩], [⟨⟨3, 0⟩, some [1]⟩]⟩
    resolveTx liveStore transaction = .ok resolved ∧
      resolved.transaction = transaction ∧ transaction.inputs.Nodup ∧
      List.Forall₂ (fun outPoint cellMeta => liveStore.cell outPoint false = .live cellMeta)
        transaction.inputs resolved.resolvedInputs ∧
      (∀ cellMeta ∈ resolved.resolvedCellDeps, ∃ cellDep ∈ transaction.cellDeps,
        ∃ outPoint, StandsFor liveStore cellDep outPoint ∧
          liveStore.cell outPoint false = .live cellMeta) ∧
      List.Forall₂ (DepGroupAccepted liveStore)
        (transaction.cellDeps.filter fun cellDep => cellDep.depType = .depGroup)
        resolved.resolvedDepGroups :=
  have h : resolveTx liveStore ⟨[⟨1, 0⟩, ⟨2, 0⟩], [⟨⟨3, 0⟩, .depGroup⟩, ⟨⟨4, 0⟩, .code⟩]⟩ =
      .ok ⟨⟨[⟨1, 0⟩, ⟨2, 0⟩], [⟨⟨3, 0⟩, .depGroup⟩, ⟨⟨4, 0⟩, .code⟩]⟩,
        [⟨⟨1, 0⟩, none⟩, ⟨⟨2, 0⟩, none⟩], [⟨⟨9, 0⟩, none⟩, ⟨⟨4, 0⟩, none⟩],
        [⟨⟨3, 0⟩, some [1]⟩]⟩ := rfl
  ⟨h, resolveTx_ok liveStore h⟩

/-! ## The `expect` on a dep group's data -/

section NoPanic

variable {ctx}

theorem run_bind_ne_panic {α β : Type} {x : ResolveM α} {f : α → ResolveM β}
    {s : ResolvedCells} (hx : x.run s ≠ .error .panic)
    (hf : ∀ a s', x.run s = .ok (a, s') → (f a).run s' ≠ .error .panic) :
    (x >>= f).run s ≠ .error .panic := by
  rw [StateT.run_bind]
  rcases h : x.run s with e | ⟨a, s'⟩
  · rw [h] at hx
    exact fun he => hx (by cases he; rfl)
  · exact hf a s' h

theorem resolveCellUncached_ne_panic (outPoint : OutPoint) (eagerLoad : Bool)
    (s : ResolvedCells) : (resolveCellUncached ctx outPoint eagerLoad).run s ≠ .error .panic := by
  simp only [resolveCellUncached, StateT.run_lift, cellResult]
  split <;> simp

theorem resolveInputs_uncached_ne_panic (currentInputs inputs : List OutPoint)
    (s : ResolvedCells) :
    (resolveInputs (resolveCellUncached ctx) currentInputs inputs).run s ≠ .error .panic := by
  induction inputs generalizing currentInputs s with
  | nil => nofun
  | cons outPoint rest ih =>
    by_cases hseen : outPoint ∈ currentInputs
    · simp only [resolveInputs, if_pos hseen]
      nofun
    · simp only [resolveInputs, if_neg hseen]
      exact run_bind_ne_panic (resolveCellUncached_ne_panic _ _ _) fun _ _ _ =>
        run_bind_ne_panic (ih _ _) fun _ _ _ => nofun

theorem resolveSubOutPoints_uncached_ne_panic (subOutPoints : List OutPoint)
    (s : ResolvedCells) :
    (resolveSubOutPoints (resolveCellUncached ctx) subOutPoints).run s ≠ .error .panic := by
  induction subOutPoints generalizing s with
  | nil => nofun
  | cons subOutPoint rest ih =>
    exact run_bind_ne_panic (resolveCellUncached_ne_panic _ _ _) fun _ _ _ =>
      run_bind_ne_panic (ih _) fun _ _ _ => nofun

variable (hdata : ∀ outPoint cellMeta, ctx.cell outPoint true = .live cellMeta →
  cellMeta.memCellData.isSome)
include hdata

theorem resolveCellDep_uncached_ne_panic (cellDep : CellDep) (s : ResolvedCells) :
    (resolveCellDep ctx (resolveCellUncached ctx) cellDep).run s ≠ .error .panic := by
  cases hdep : cellDep.depType
  · simp only [resolveCellDep, hdep]
    exact run_bind_ne_panic (resolveCellUncached_ne_panic _ _ _) fun _ _ _ => nofun
  · simp only [resolveCellDep, hdep]
    refine run_bind_ne_panic (resolveCellUncached_ne_panic _ _ _) fun depGroup s' hgroup => ?_
    have hsome := hdata _ _ (resolveCellUncached_run_eq_ok.mp hgroup).1
    obtain ⟨data, hdata'⟩ := Option.isSome_iff_exists.mp hsome
    simp only [hdata']
    refine run_bind_ne_panic ?_ fun _ _ _ =>
      run_bind_ne_panic (resolveSubOutPoints_uncached_ne_panic _ _) fun _ _ _ => nofun
    cases parseDepGroupData ctx data <;> simp [Except.mapError, StateT.run_lift]

theorem resolveCellDeps_uncached_ne_panic (cellDeps : List CellDep) (s : ResolvedCells) :
    (resolveCellDeps ctx (resolveCellUncached ctx) cellDeps).run s ≠ .error .panic := by
  induction cellDeps generalizing s with
  | nil => nofun
  | cons cellDep rest ih =>
    exact run_bind_ne_panic (resolveCellDep_uncached_ne_panic hdata _ _) fun _ _ _ =>
      run_bind_ne_panic (ih _) fun _ _ _ => nofun

/-- **The `expect` never fires on an honest store.** If the store loads the data of every
live cell it is asked for eagerly, `resolve_tx` never panics: it returns a resolved
transaction or an `OutPointError`. -/
theorem resolveTx_ne_panic (transaction : TransactionView) :
    resolveTx ctx transaction ≠ .error .panic := by
  have hrun : (resolveTxWith ctx (resolveCellUncached ctx) transaction).run ∅ ≠ .error .panic :=
    run_bind_ne_panic (resolveInputs_uncached_ne_panic _ _ _) fun _ _ _ =>
      run_bind_ne_panic (resolveCellDeps_uncached_ne_panic hdata _ _) fun _ _ _ => nofun
  rw [resolveTx, run'_resolveTxWith_eq, StateT.run'_eq]
  rcases h : (resolveTxWith ctx (resolveCellUncached ctx) transaction).run ∅ with e | _
  · rw [h] at hrun
    exact fun he => hrun (by cases he; rfl)
  · nofun

end NoPanic

theorem resolveTx_ne_panic_example :
    (∀ outPoint cellMeta, liveStore.cell outPoint true = .live cellMeta →
      cellMeta.memCellData.isSome) ∧
      resolveTx liveStore ⟨[⟨1, 0⟩], [⟨⟨3, 0⟩, .depGroup⟩]⟩ ≠ .error .panic :=
  have hdata : ∀ outPoint cellMeta, liveStore.cell outPoint true = .live cellMeta →
      cellMeta.memCellData.isSome := fun _ _ h => by cases h; rfl
  ⟨hdata, resolveTx_ne_panic hdata _⟩

/-! ## `verify_tx` -/

/-- The verifiers of `ckb_verification` and the parts of the node `verify_tx` uses: the
non-contextual verifier, the conversion of an `OutPointError` into the error type, the tip
header of `get_last_state` (from which `TxVerifyEnv::new_submit` builds the environment),
the time-relative, capacity and script verifiers of `ContextualTransactionVerifier`, and the
consensus's `max_block_cycles`. -/
structure TxVerifiers (ε : Type) where
  nonContextualVerify : TransactionView → Except ε Unit
  ofOutPointError : OutPointError → ε
  tipHeader : Header
  timeRelativeVerify : ResolvedTransaction → Header → Except ε Unit
  capacityVerify : ResolvedTransaction → Except ε Unit
  scriptVerify : ResolvedTransaction → Header → Nat → Except ε Nat
  maxBlockCycles : Nat

section VerifyTx

variable {ε : Type} (verifiers : TxVerifiers ε)

/-- `ContextualTransactionVerifier::verify(max_cycles)`: the time-relative, capacity and
script verifiers, in order; the cycles are the script verifier's. -/
def contextualVerify (rtx : ResolvedTransaction) (tipHeader : Header) (maxCycles : Nat) :
    Except ε Nat := do
  verifiers.timeRelativeVerify rtx tipHeader
  verifiers.capacityVerify rtx
  verifiers.scriptVerify rtx tipHeader maxCycles

/-- `verify_tx`: the non-contextual checks, `resolve_tx`, then the contextual verifier with
the block's cycle limit. -/
def verifyTx (transaction : TransactionView) : Except (Exit ε) Nat := do
  (verifiers.nonContextualVerify transaction).mapError .err
  let rtx ← (resolveTx ctx transaction).mapError fun
    | .err e => .err (verifiers.ofOutPointError e)
    | .panic => .panic
  (contextualVerify verifiers rtx verifiers.tipHeader verifiers.maxBlockCycles).mapError .err

theorem contextualVerify_eq_ok {rtx : ResolvedTransaction} {tipHeader : Header}
    {maxCycles cycles : Nat} :
    contextualVerify verifiers rtx tipHeader maxCycles = .ok cycles ↔
      verifiers.timeRelativeVerify rtx tipHeader = .ok () ∧
        verifiers.capacityVerify rtx = .ok () ∧
        verifiers.scriptVerify rtx tipHeader maxCycles = .ok cycles := by
  unfold contextualVerify
  cases verifiers.timeRelativeVerify rtx tipHeader <;> cases verifiers.capacityVerify rtx <;>
    simp [bind, Except.bind]

/-- **What `verify_tx` accepts.** A transaction it accepts passed the non-contextual
verifier; it spends pairwise distinct cells, which are, in order, live cells of the store;
its resolved form passed the time-relative and capacity verifiers under the tip's
environment; and the cycles returned are the script verifier's, under the block's cycle
limit. -/
theorem verifyTx_ok {transaction : TransactionView} {cycles : Nat}
    (h : verifyTx ctx verifiers transaction = .ok cycles) :
    verifiers.nonContextualVerify transaction = .ok () ∧
      ∃ resolved, resolveTx ctx transaction = .ok resolved ∧ transaction.inputs.Nodup ∧
        List.Forall₂ (fun outPoint cellMeta => ctx.cell outPoint false = .live cellMeta)
          transaction.inputs resolved.resolvedInputs ∧
        verifiers.timeRelativeVerify resolved verifiers.tipHeader = .ok () ∧
        verifiers.capacityVerify resolved = .ok () ∧
        verifiers.scriptVerify resolved verifiers.tipHeader verifiers.maxBlockCycles =
          .ok cycles := by
  simp only [verifyTx, bind_eq_ok, mapError_err_eq_ok] at h
  obtain ⟨_, hnonContextual, resolved, hresolve, hcontextual⟩ := h
  have hresolved : resolveTx ctx transaction = .ok resolved := by
    cases hr : resolveTx ctx transaction <;> simp_all [Except.mapError]
  obtain ⟨-, hnodup, hinputs, -⟩ :=
    resolveTxUncached_ok ctx ((run'_resolveTxWith_eq ctx transaction).symm.trans hresolved)
  exact ⟨hnonContextual, resolved, hresolved, hnodup, hinputs,
    (contextualVerify_eq_ok verifiers).mp hcontextual⟩

end VerifyTx

/-- Verifiers that accept every transaction, with the tip at block 0 and a script run of
7 cycles. -/
def acceptingVerifiers : TxVerifiers String where
  nonContextualVerify _ := .ok ()
  ofOutPointError _ := "out point error"
  tipHeader := .ofFields 0 (.ofFields 0 0 1) 0 0 0
  timeRelativeVerify _ _ := .ok ()
  capacityVerify _ := .ok ()
  scriptVerify _ _ _ := .ok 7
  maxBlockCycles := 100

theorem verifyTx_ok_example :
    let transaction : TransactionView := ⟨[⟨1, 0⟩, ⟨2, 0⟩], [⟨⟨3, 0⟩, .depGroup⟩]⟩
    verifyTx liveStore acceptingVerifiers transaction = .ok 7 ∧
      acceptingVerifiers.nonContextualVerify transaction = .ok () ∧
      ∃ resolved, resolveTx liveStore transaction = .ok resolved ∧
        transaction.inputs.Nodup ∧
        List.Forall₂ (fun outPoint cellMeta => liveStore.cell outPoint false = .live cellMeta)
          transaction.inputs resolved.resolvedInputs ∧
        acceptingVerifiers.timeRelativeVerify resolved acceptingVerifiers.tipHeader = .ok () ∧
        acceptingVerifiers.capacityVerify resolved = .ok () ∧
        acceptingVerifiers.scriptVerify resolved acceptingVerifiers.tipHeader
          acceptingVerifiers.maxBlockCycles = .ok 7 :=
  have h : verifyTx liveStore acceptingVerifiers
      ⟨[⟨1, 0⟩, ⟨2, 0⟩], [⟨⟨3, 0⟩, .depGroup⟩]⟩ = .ok 7 := rfl
  ⟨h, verifyTx_ok liveStore acceptingVerifiers h⟩

end CkbLightClient
