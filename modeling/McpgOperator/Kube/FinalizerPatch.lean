import McpgOperator.Kube.Finalizer
import McpgOperator.Lib.Transition

/-!
# Two helpers on one list

`ensure_finalizer` and `remove_finalizer` as the patches they send, and the
apiserver's side of them, on the object of one name. The first relies on the
object the reconcile holds and tests its version; the second reads the object
once more and sends the whole list that is left, by name, with no test.

Every write gives the object a version no object had before, and every create
a uid. While an object is being deleted the apiserver refuses a write that
adds a finalizer, and the object goes with its last one.
-/

namespace McpgOperator.Kube

/-- The bodies that go over the wire. The JSON patches test the version
first. -/
inductive FinalizerPatch
  /-- `add` at the end of `/metadata/finalizers`. -/
  | append (resourceVersion finalizer : String)
  /-- `add` of `/metadata/finalizers`. -/
  | create (resourceVersion : String) (finalizers : List String)
  /-- The merge patch `{"metadata": {"finalizers": …}}`. -/
  | merge (finalizers : List String)
  deriving DecidableEq, Repr

/-- What `ensure_finalizer` sends for the object in hand. -/
def ensureRequest (m : ObjectMeta) (finalizer : String) :
    Except FinalizerError (Option FinalizerPatch) :=
  if m.hasFinalizer finalizer then .ok none
  else
    match m.resourceVersion with
    | none =>
        .error (.patch (.other ("missing metadata.resourceVersion (cannot " ++
          "atomically add finalizer)")))
    | some resourceVersion =>
        if m.finalizers.isSome then
          .ok (some (.append resourceVersion finalizer))
        else .ok (some (.create resourceVersion [finalizer]))

/-- The list without the finalizer, empty where there is none. -/
def withoutFinalizer (m : ObjectMeta) (finalizer : String) : List String :=
  (m.finalizers.map (·.filter (· ≠ finalizer))).getD []

/-- What `remove_finalizer` sends for the object it has read. -/
def removeRequest (m : ObjectMeta) (finalizer : String) :
    Option FinalizerPatch :=
  let filtered := withoutFinalizer m finalizer
  if m.finalizers.any fun f => filtered.length == f.length then none
  else some (.merge filtered)

/-! ## The apiserver -/

/-- The list a patch makes of the stored one, unless it fails. -/
def FinalizerPatch.newList (stored : ObjectMeta) :
    FinalizerPatch → Option (List String)
  | .append resourceVersion finalizer =>
      if stored.resourceVersion = some resourceVersion then
        stored.finalizers.map (· ++ [finalizer])
      else none
  | .create resourceVersion finalizers =>
      if stored.resourceVersion = some resourceVersion then some finalizers
      else none
  | .merge finalizers => some finalizers

/-- What is stored once the list is written: an empty list is no list, and
an object that is being deleted goes with its last finalizer. -/
def stored (m : ObjectMeta) (finalizers : List String) (version : String) :
    Option ObjectMeta :=
  if m.deletionTimestamp.isSome ∧ finalizers = [] then none
  else
    some
      { m with
        finalizers := if finalizers = [] then none else some finalizers
        resourceVersion := some version }

/-- Whether the deletion rule lets the list through. -/
def deletionAllows (m : ObjectMeta) (finalizers : List String) : Bool :=
  m.deletionTimestamp.isNone ||
    finalizers.all fun f => m.hasFinalizer f

/-- A write of a list of finalizers: what is stored afterwards, unless it is
refused. -/
def writeFinalizers (m : ObjectMeta) (finalizers : List String)
    (version : String) : Option (Option ObjectMeta) :=
  if deletionAllows m finalizers then some (stored m finalizers version)
  else none

/-! ## Interleavings -/

/-- What a reconcile still has before it: the patch for the object it holds,
the read of `remove_finalizer`, or the patch for what that read. -/
inductive Pending
  | ensuring (held : ObjectMeta)
  | fetching
  | removing (read : ObjectMeta)
  deriving DecidableEq

structure FinalizerState where
  object : Option ObjectMeta
  pending : List Pending
  /-- The versions and uids handed out. -/
  versions : List String
  uids : List String
  deriving DecidableEq

inductive FinalizerEvent
  | create (uid version : String) (finalizers : List String)
  | delete (now : DateTime) (version : String)
  /-- Somebody else writes the list. -/
  | write (finalizers : List String) (version : String)
  /-- A reconcile starts with the object as it is. -/
  | reconcile
  /-- A pending helper makes its next request. -/
  | act (i : Nat) (version : String)
  deriving DecidableEq

/-- The object is written to; the version is new. -/
def FinalizerState.put (s : FinalizerState) (o : Option ObjectMeta)
    (version : String) : FinalizerState :=
  { s with object := o, versions := version :: s.versions }

def FinalizerState.finish (s : FinalizerState) (i : Nat) : FinalizerState :=
  { s with pending := s.pending.eraseIdx i }

/-- The patch meets what is stored by then. -/
def FinalizerState.patch (s : FinalizerState) (p : FinalizerPatch)
    (version : String) : FinalizerState :=
  match s.object with
  | none => s
  | some m =>
      match (p.newList m).bind fun l => writeFinalizers m l version with
      | none => s
      | some o => s.put o version

def actPending (s : FinalizerState) (i : Nat) (version : String) :
    Pending → FinalizerState
  | .ensuring held =>
      match ensureRequest held operatorFinalizer with
      | .ok (some p) => (s.finish i).patch p version
      | _ => s.finish i
  | .fetching =>
      match s.object with
      | none => s.finish i
      | some m => { s with pending := s.pending.set i (.removing m) }
  | .removing read =>
      match removeRequest read operatorFinalizer with
      | some p => (s.finish i).patch p version
      | none => s.finish i

def finalizerStep (name : String) (s : FinalizerState) :
    FinalizerEvent → Option FinalizerState
  | .create uid version finalizers =>
      if s.object.isNone ∧ uid ∉ s.uids ∧ version ∉ s.versions then
        some
          { s with
            object := some
              { name := some name, uid := some uid
                resourceVersion := some version
                finalizers :=
                  if finalizers = [] then none else some finalizers }
            versions := version :: s.versions
            uids := uid :: s.uids }
      else none
  | .delete now version =>
      if version ∈ s.versions then none
      else
        s.object.map fun m =>
          let m :=
            { m with
              deletionTimestamp := m.deletionTimestamp <|> some now }
          s.put (stored m (m.finalizers.getD []) version) version
  | .write finalizers version =>
      if version ∈ s.versions then none
      else
        s.object.bind fun m =>
          (writeFinalizers m finalizers version).map fun o =>
            s.put o version
  | .reconcile =>
      s.object.map fun m =>
        { s with
          pending := s.pending ++
            [if m.deletionTimestamp.isSome then .fetching
              else .ensuring m] }
  | .act i version =>
      if version ∈ s.versions then none
      else (s.pending[i]?).map fun p => actPending s i version p

/-- Nothing is stored, or one object with a version and a uid. -/
structure FinalizerStart (s : FinalizerState) : Prop where
  object : ∀ m, s.object = some m →
    (∃ version ∈ s.versions, m.resourceVersion = some version) ∧
    (∃ uid ∈ s.uids, m.uid = some uid) ∧ m.finalizers ≠ some []
  pending : s.pending = []

/-- The object of that name, and the reconciles of it. -/
def finalizers (name : String) :
    Transition.System FinalizerState FinalizerEvent where
  init := FinalizerStart
  step := finalizerStep name

end McpgOperator.Kube
