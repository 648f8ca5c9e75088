import McpgOperator.Lib.Transition

/-!
# From a write to a pass over it

`reconcile/watch.rs` for one object: the versions it goes through in the
apiserver, the watch that brings them, the filter behind it, and the
controller that runs one pass at a time on what the store holds when the pass
begins.

The value the filter goes by is the repository's; the hasher and kube-runtime
are not, and are parameters. What is relied on of kube-runtime is in
`Runtime.Laws`: that the filter drops an object only for the value it has kept
of it, that the store has what it was last told, that a request is not lost.

The watch brings what was written, in order. After a lost connection it lists
again and skips what it has missed; what it lists comes to the filter at once,
and to the store when the list has ended. A deletion takes the object out of
the store and is not passed on (`applied_objects`). A name can be used again,
by an object of another uid.
-/

namespace McpgOperator.Kube

/-- `spec_or_deletion`. -/
def specOrDeletion (hash : Int × Bool → UInt64) (generation : Option Int)
    (deleting : Bool) : Option UInt64 :=
  generation.map fun g => hash (g, deleting)

namespace Trigger

/-! ## The object -/

/-- A version of the object. Uids are counted in the order they are given. -/
structure Version (Spec : Type) where
  uid : Nat
  generation : Option Int
  deleting : Bool
  spec : Spec
  deriving DecidableEq, Repr

variable {Spec : Type}

def Version.value (hash : Int × Bool → UInt64) (v : Version Spec) :
    Option UInt64 :=
  specOrDeletion hash v.generation v.deleting

/-- What a watch event says. -/
inductive Sight (Spec : Type)
  | applied (v : Version Spec)
  | deleted (v : Version Spec)
  deriving DecidableEq, Repr

/-- What there is of the object after the event. -/
def Sight.object : Sight Spec → Option (Version Spec)
  | .applied v => some v
  | .deleted _ => none

/-! ## What is used of kube-runtime -/

/-- As far as one object goes. -/
structure Runtime (Spec : Type) where
  /-- `predicate_filter`. -/
  Cache : Type
  noValues : Cache
  /-- Whether an object of the uid and the value is let through at that time,
  and what is kept then. -/
  poll : Nat → Nat → Option UInt64 → Cache → Bool × Cache
  /-- The value that is kept for the uid. -/
  kept : Cache → Nat → Option UInt64
  /-- `reflector::Store`. -/
  Store : Type
  noObject : Store
  tell : Option (Version Spec) → Store → Store
  get : Store → Option (Version Spec)
  /-- The requests of the `Controller`. -/
  Queue : Type
  idle : Queue
  request : Queue → Queue
  /-- The next run begins, if there is one to begin. -/
  begin : Queue → Option Queue
  finish : Queue → Queue
  /-- There is a run to begin. -/
  due : Queue → Bool

structure Runtime.Laws (rt : Runtime Spec) : Prop where
  kept_noValues : ∀ uid, rt.kept rt.noValues uid = none
  /-- An object is dropped for the value that is kept for it. -/
  dropped : ∀ now uid value c, (rt.poll now uid value c).1 = false →
    value.isSome = true ∧ rt.kept c uid = value
  /-- What is kept for a uid is the last value it came with; it may have been
  forgotten. -/
  kept_poll : ∀ now uid value c other x,
    rt.kept (rt.poll now uid value c).2 other = some x →
    if other = uid ∧ value.isSome = true then value = some x
    else rt.kept c other = some x
  get_noObject : rt.get rt.noObject = none
  get_tell : ∀ object store, rt.get (rt.tell object store) = object
  due_request : ∀ q, rt.due (rt.request q) = true
  /-- A request that comes in during a run is there after it. -/
  due_finish : ∀ q, rt.due q = true → rt.due (rt.finish q) = true

/-! ## Runs -/

structure State (rt : Runtime Spec) where
  /-- The object in the apiserver. -/
  current : Option (Sight Spec)
  /-- The events the watch has yet to bring. -/
  backlog : List (Sight Spec)
  /-- The last event that has come to the filter. -/
  front : Option (Sight Spec)
  /-- It came from a list that has not ended. -/
  listing : Bool
  cache : rt.Cache
  store : rt.Store
  queue : rt.Queue
  /-- The object the pass that runs began with. -/
  running : Option (Version Spec)
  /-- The object of the last pass that has ended. -/
  seen : Option (Version Spec)

def start (rt : Runtime Spec) : State rt where
  current := none
  backlog := []
  front := none
  listing := false
  cache := rt.noValues
  store := rt.noObject
  queue := rt.idle
  running := none
  seen := none

inductive Event (Spec : Type)
  | create (uid : Nat) (generation : Option Int) (spec : Spec)
  /-- A new spec; the apiserver counts the generation up, where the kind has
  one. -/
  | editSpec (spec : Spec)
  /-- A write of the status, or of metadata the filter does not look at. -/
  | writeStatus
  /-- A deletion begins; the generation may go up. -/
  | markDeleting (bump : Bool)
  | vanish
  | deliver (now : Nat)
  /-- The watch lists again. -/
  | list (now : Nat)
  | listEnds
  /-- A mapper, or a requeue. -/
  | trigger
  | begin
  | finish
  deriving DecidableEq, Repr

variable {rt : Runtime Spec}

/-- The apiserver has a new version, and the watch will be told. -/
def State.write (s : State rt) (e : Sight Spec) : State rt :=
  { s with current := some e, backlog := s.backlog ++ [e] }

/-- The uid of the next object is higher. -/
def State.fresh (s : State rt) (uid : Nat) : Bool :=
  match s.current with
  | none => true
  | some (.deleted v) => v.uid < uid
  | some (.applied _) => false

section

variable (hash : Int × Bool → UInt64)

/-- An event comes to the filter; what it lets through is a request. -/
def State.receive (s : State rt) (now : Nat) (e : Sight Spec) : State rt :=
  match e with
  | .deleted _ => { s with front := some e }
  | .applied v =>
      let polled := rt.poll now v.uid (v.value hash) s.cache
      { s with
        front := some e
        cache := polled.2
        queue := if polled.1 then rt.request s.queue else s.queue }

def State.step (s : State rt) : Event Spec → Option (State rt)
  | .create uid generation spec =>
      if s.fresh uid then
        some (s.write (.applied
          { uid := uid, generation := generation, deleting := false
            spec := spec }))
      else none
  | .editSpec spec =>
      match s.current with
      | some (.applied v) =>
          some (s.write (.applied
            { v with spec := spec, generation := v.generation.map (· + 1) }))
      | _ => none
  | .writeStatus =>
      match s.current with
      | some (.applied v) => some (s.write (.applied v))
      | _ => none
  | .markDeleting bump =>
      match s.current with
      | some (.applied v) =>
          some (s.write (.applied
            { v with
              deleting := true
              generation :=
                if bump then v.generation.map (· + 1) else v.generation }))
      | _ => none
  | .vanish =>
      match s.current with
      | some (.applied v) => some (s.write (.deleted v))
      | _ => none
  | .deliver now =>
      match s.backlog with
      | [] => none
      | e :: rest =>
          if s.listing then none
          else
            some (State.receive hash
              { s with backlog := rest, store := rt.tell e.object s.store }
              now e)
  | .list now =>
      match s.current with
      | none => none
      | some e =>
          some (State.receive hash { s with backlog := [], listing := true }
            now e)
  | .listEnds =>
      if s.listing then
        some
          { s with
            listing := false
            store := rt.tell (s.front.bind Sight.object) s.store }
      else none
  | .trigger => some { s with queue := rt.request s.queue }
  | .begin =>
      match s.running, rt.begin s.queue with
      | none, some q =>
          match rt.get s.store with
          | some v => some { s with queue := q, running := some v }
          -- there is nothing to reconcile
          | none => some { s with queue := rt.finish q }
      | _, _ => none
  | .finish =>
      match s.running with
      | some v =>
          some
            { s with
              queue := rt.finish s.queue, running := none, seen := some v }
      | none => none

def system (rt : Runtime Spec) :
    Transition.System (State rt) (Event Spec) where
  init s := s = start rt
  step := State.step hash

/-! ## Where the operator has no say -/

/-- Two versions of one uid, one after the other, with one hash and different
fields. -/
def collides : Option (Sight Spec) → Option (Sight Spec) → Bool
  | some (.applied w), some (.applied v) =>
      w.uid == v.uid && (v.value hash).isSome &&
        w.value hash == v.value hash &&
        (w.generation, w.deleting) != (v.generation, v.deleting)
  | _, _ => false

/-- No event that comes to the filter has the hash of the one before it for
other fields, and no run begins while a list has not ended. -/
def Orderly (s : State rt) : Event Spec → Prop
  | .deliver _ => collides hash s.front s.backlog.head? = false
  | .list _ => collides hash s.front s.current = false
  | .begin => s.listing = false
  | _ => True

instance (s : State rt) : (e : Event Spec) → Decidable (Orderly hash s e)
  | .deliver _ | .list _ | .begin => inferInstanceAs (Decidable (_ = _))
  | .create _ _ _ | .editSpec _ | .writeStatus | .markDeleting _ | .vanish
  | .listEnds | .trigger | .finish => isTrue trivial

end

end Trigger

end McpgOperator.Kube
