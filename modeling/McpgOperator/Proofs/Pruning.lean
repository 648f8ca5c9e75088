import McpgOperator.Lib.Transition
import McpgOperator.Proofs.SetReadiness
import Mathlib.Data.List.Nodup

/-!
# What pruning takes away

The Secrets of a namespace are named after the plugin alone, so the sets of
the namespace share them; the label and the owner are those of whichever set
applied the Secret last. A pass deletes what carries its label and is not in
what it has just resolved, and the garbage collector what is left of an owner
that is gone. Neither looks at another set, and neither can tell an entry
that was removed from one that did not resolve.

So nothing that is needed is lost where the last applier of a Secret keeps
it for as long as a set wants it, for its latest pass or for an entry of its
spec, and where an entry that has once resolved goes on to.

The sets of one namespace are followed, and their passes effect by effect.
The answers to a pass's reads of plugins and sources are arbitrary; of what
it lists, they are what is stored then.
-/

namespace McpgOperator.Pruning

open McpgOperator.Kube McpgOperator.PluginSet
  McpgOperator.PluginSet.Reconcile Transition

/-! ## What a pass applies and deletes -/

section Passes

variable {libs : SetLibs} {ans : SetAnswers} {set : MCPGPluginSet}

/-- `metadata.uid`, as the owner reference has it. -/
def uidOf (obj : MCPGPluginSet) : String := obj.metadata.uid.getD ""

/-- `desired_secret_names` of a pass. -/
def desiredOf (ans : SetAnswers) (set : MCPGPluginSet) : List String :=
  desiredSecretNames (resolved ans set)

/-- A Secret that is stored, under its one owner. -/
structure Stored where
  secret : Secret
  owner : OwnerReference
  deriving DecidableEq

/-- The set whose label it carries. -/
def Stored.label (x : Stored) : Option String :=
  x.secret.labels.lookup managedBySetLabel

theorem of_applySecret_mem {copy : Secret} {owner : OwnerReference}
    (h : .applySecret copy owner ∈ (reconcileInner libs ans set).trace) :
    (∃ n ∈ desiredOf ans set, copy.name = some n) ∧
      owner.uid = uidOf set ∧
      Stored.label { secret := copy, owner := owner } =
        some (set.metadata.name.getD "unknown") := by
  cases issues_of_mem h with
  | copy ns source hr =>
      exact ⟨⟨_, List.mem_map_of_mem hr, rfl⟩, rfl, rfl⟩

theorem of_deleteSecret_mem {name : String}
    (h : .deleteSecret name ∈ (reconcileInner libs ans set).trace) :
    name ∈ pruneStaleSecrets ans.listSecrets (desiredOf ans set) := by
  cases issues_of_mem h with
  | prune hname => exact hname

theorem of_mem_pruneStaleSecrets {listed : Except KubeError (List Secret)}
    {desired : List String} {name : String}
    (h : name ∈ pruneStaleSecrets listed desired) :
    (∃ items, listed = .ok items ∧ ∃ x ∈ items, x.name = some name) ∧
      name ∉ desired := by
  unfold pruneStaleSecrets at h
  cases listed with
  | error e => cases h
  | ok items =>
      obtain ⟨hname, hstale⟩ := List.mem_filter.mp h
      obtain ⟨x, hx, hname⟩ := List.mem_filterMap.mp hname
      exact ⟨⟨items, rfl, x, hx, hname⟩, of_decide_eq_true hstale⟩

end Passes

/-! ## Runs -/

structure Live where
  obj : MCPGPluginSet
  /-- Of its latest pass. -/
  desired : List String
  /-- The Secret an entry resolved to when it last did. -/
  resolvedTo : List (String × String)
  deriving DecidableEq

def Live.uid (l : Live) : String := uidOf l.obj

/-- A pass, with the effects it has yet to come to. -/
structure Running where
  obj : MCPGPluginSet
  ans : SetAnswers
  /-- What the entries had last resolved to when it started. -/
  before : List (String × String)
  rest : List Effect
  /-- It has listed the Secrets that carry its label. -/
  listed : Bool

def Running.uid (r : Running) : String := uidOf r.obj

structure Deletion where
  name : String
  pass : Option Running
  /-- The sets at that moment. -/
  sets : List Live
  given : List (String × String)

structure State where
  sets : List Live
  /-- Every version of a set that was ever stored. -/
  versions : List MCPGPluginSet
  /-- The Secret a plugin gave the entry that last resolved to it. -/
  given : List (String × String)
  secrets : List Stored
  running : List Running
  deleted : List Deletion

inductive Action
  | createSet (obj : MCPGPluginSet)
  | editSet (obj : MCPGPluginSet)
  | deleteSet (uid : String)
  /-- A pass resolves the entries of a version. One that does not come to
  that touches nothing, and is left out. -/
  | start (obj : MCPGPluginSet) (ans : SetAnswers)
  | list (i : Nat)
  /-- The pass comes to its next effect, which takes place or fails. -/
  | effect (i : Nat) (done : Bool)
  | stop (i : Nat)
  | collect (name : String)

def State.resolvedTo (s : State) (uid : String) : List (String × String) :=
  ((s.sets.find? fun l => l.uid == uid).map (·.resolvedTo)).getD []

/-- The set of a pass, once the pass has resolved. -/
def Live.afterResolve (ans : SetAnswers) (set : MCPGPluginSet) (l : Live) :
    Live :=
  if l.uid = uidOf set then
    { l with
      desired := desiredOf ans set
      resolvedTo :=
        (resolved ans set).map (fun r => (r.entryId, r.artefactSecretName)) ++
          l.resolvedTo }
  else l

def State.setsWith (s : State) (obj : MCPGPluginSet) : List Live :=
  s.sets ++ [{ obj := obj, desired := [], resolvedTo := [] }]

def State.setsEdited (s : State) (obj : MCPGPluginSet) : List Live :=
  s.sets.map fun l => if l.uid = uidOf obj then { l with obj := obj } else l

def State.setsWithout (s : State) (uid : String) : List Live :=
  s.sets.filter fun l => l.uid ≠ uid

def State.setsResolved (s : State) (ans : SetAnswers) (obj : MCPGPluginSet) :
    List Live :=
  s.sets.map (Live.afterResolve ans obj)

def State.givenResolved (s : State) (ans : SetAnswers)
    (obj : MCPGPluginSet) : List (String × String) :=
  (resolved ans obj).map (fun r => (r.pluginName, r.artefactSecretName)) ++
    s.given

/-- What the pass lists is what carries its label now. -/
def State.lists (s : State) (r : Running) : Bool :=
  match r.ans.listSecrets with
  | .error _ => true
  | .ok items =>
      items == (s.secrets.filter fun x =>
        x.label == r.obj.metadata.name).map (·.secret)

/-- Server-side apply by the one field manager of all sets: what another
set applied is replaced. -/
def State.put (s : State) (x : Stored) : State :=
  { s with
    secrets :=
      s.secrets.filter (fun y => y.secret.name ≠ x.secret.name) ++ [x] }

def State.remove (s : State) (name : String) (pass : Option Running) :
    State :=
  if ∃ x ∈ s.secrets, x.secret.name = some name then
    { s with
      secrets := s.secrets.filter fun x => x.secret.name ≠ some name
      deleted :=
        s.deleted ++
          [{ name := name, pass := pass, sets := s.sets
             given := s.given }] }
  else s

def State.perform (s : State) (r : Running) : Effect → State
  | .applySecret copy owner => s.put { secret := copy, owner := owner }
  | .deleteSecret name => s.remove name (some r)
  | _ => s

def isDelete : Effect → Bool
  | .deleteSecret _ => true
  | _ => false

def isApply : Effect → Bool
  | .applySecret _ _ => true
  | _ => false

def State.setRunning (s : State) (i : Nat) (r : Running) : State :=
  { s with running := s.running.set i r }

def State.effect (s : State) (i : Nat) (r : Running) (e : Effect)
    (rest : List Effect) (done : Bool) : State :=
  (if done then s.perform r e else s).setRunning i { r with rest := rest }

def State.step (libs : SetLibs) (s : State) (a : Action) : Option State :=
  match a with
  | .createSet obj =>
      if obj.metadata.name.isSome ∧
          (∀ l ∈ s.sets, l.obj.metadata.name ≠ obj.metadata.name) ∧
          ∀ v ∈ s.versions, uidOf v ≠ uidOf obj then
        some
          { s with
            sets := s.setsWith obj
            versions := s.versions ++ [obj] }
      else none
  | .editSet obj =>
      if ∃ l ∈ s.sets, l.uid = uidOf obj ∧
          l.obj.metadata.name = obj.metadata.name then
        some
          { s with
            sets := s.setsEdited obj
            versions := s.versions ++ [obj] }
      else none
  | .deleteSet uid => some { s with sets := s.setsWithout uid }
  | .start obj ans =>
      if obj ∈ s.versions ∧ (passNamespace ans obj).isSome ∧
          (∀ r ∈ s.running, r.obj.metadata.name ≠ obj.metadata.name) ∧
          ∀ l ∈ s.sets, l.obj.metadata.name = obj.metadata.name →
            l.uid = uidOf obj then
        some
          { s with
            sets := s.setsResolved ans obj
            given := s.givenResolved ans obj
            running :=
              s.running ++
                [{ obj := obj, ans := ans
                   before := s.resolvedTo (uidOf obj)
                   rest := (reconcileInner libs ans obj).trace
                   listed := false }] }
      else none
  | .list i =>
      match s.running[i]? with
      | none => none
      | some r =>
          if r.rest.all (fun e => !isApply e) && s.lists r then
            some (s.setRunning i { r with listed := true })
          else none
  | .effect i done =>
      match s.running[i]? with
      | none => none
      | some r =>
          match r.rest with
          | [] => none
          | e :: rest =>
              if isDelete e && !r.listed then none
              else some (s.effect i r e rest done)
  | .stop i => some { s with running := s.running.eraseIdx i }
  | .collect name =>
      if ∃ x ∈ s.secrets, x.secret.name = some name ∧
          ∀ l ∈ s.sets, l.uid ≠ x.owner.uid then
        some (s.remove name none)
      else none

def system (libs : SetLibs) : System State Action where
  init s :=
    s =
      { sets := [], versions := [], given := [], secrets := []
        running := [], deleted := [] }
  step := State.step libs

/-! ## What must not be lost -/

/-- What an entry needs: the Secret it resolved to when it last did, and
before it ever did the one its plugin last gave an entry of any set. -/
def Live.secretOf (l : Live) (given : List (String × String))
    (e : MCPGPluginSetEntry) : Option String :=
  (l.resolvedTo.lookup e.id).or (given.lookup e.pluginRef)

/-- What the enabled entries of the stored spec need. -/
def Live.needed (l : Live) (given : List (String × String)) : List String :=
  (enabledEntries l.obj).filterMap fun e => l.secretOf given e.1

/-- What the latest pass desires, and what the spec needs. -/
def Live.wanted (l : Live) (given : List (String × String)) : List String :=
  l.desired ++ l.needed given

/-- An enabled entry of the pass did not resolve, and had resolved to this
Secret before. -/
def Running.merelyFailed (r : Running) (name : String) : Prop :=
  ∃ e ∈ enabledEntries r.obj,
    (resolveEntry (r.ans.getPlugin e.2) e.1).isOk = false ∧
      r.before.lookup e.1.id = some name

/-- No enabled entry of a set that is there needs the Secret, no other set
desires it, and no entry of the pass that deletes it merely failed. -/
structure Deletion.Safe (d : Deletion) : Prop where
  unneeded : ∀ l ∈ d.sets, d.name ∉ l.needed d.given
  undesired : ∀ l ∈ d.sets, (∀ r ∈ d.pass, l.uid ≠ r.uid) →
    d.name ∉ l.desired
  removed : ∀ r ∈ d.pass, ¬ r.merelyFailed d.name

instance (r : Running) (name : String) :
    Decidable (r.merelyFailed name) :=
  inferInstanceAs (Decidable (∃ e ∈ enabledEntries r.obj,
    (resolveEntry (r.ans.getPlugin e.2) e.1).isOk = false ∧
      r.before.lookup e.1.id = some name))

/-! ## When nothing is -/

def Unwanted (sets : List Live) (given : List (String × String))
    (name : String) : Prop :=
  ∀ l ∈ sets, name ∉ l.wanted given

/-- What the set applied last and keeps no longer, none of the sets there
are then wants. -/
def State.GivesUp (s : State) (uid : String) (kept : List String)
    (sets : List Live) (given : List (String × String)) : Prop :=
  ∀ x ∈ s.secrets, x.owner.uid = uid → ∀ name ∈ x.secret.name,
    name ∉ kept → Unwanted sets given name

/-- What a set has come to want is not about to be pruned, and its last
applier is a set that desires it. -/
def State.TakesUp (s : State) (sets : List Live)
    (given : List (String × String)) : Prop :=
  ∀ l ∈ sets, ∀ name ∈ l.wanted given,
    (∀ l₀ ∈ s.sets, l₀.uid = l.uid → name ∉ l₀.wanted s.given) →
    (∀ r ∈ s.running, r.listed = true → .deleteSecret name ∉ r.rest) ∧
    ∀ x ∈ s.secrets, x.secret.name = some name →
      ∃ k ∈ sets, k.uid = x.owner.uid ∧ name ∈ k.desired

/-- An entry that does not resolve leaves no Secret with the set's label
behind. -/
def State.NoneFlaps (s : State) (obj : MCPGPluginSet) (ans : SetAnswers) :
    Prop :=
  ∀ e ∈ enabledEntries obj,
    (resolveEntry (ans.getPlugin e.2) e.1).isOk = false →
    ∀ name ∈ (s.resolvedTo (uidOf obj)).lookup e.1.id,
      name ∉ desiredOf ans obj →
      ∀ x ∈ s.secrets, x.secret.name = some name →
        x.label ≠ obj.metadata.name

/-- The Secret is applied for a set that is there, or for none. -/
def State.AppliesFor (s : State) : Effect → Prop
  | .applySecret copy owner =>
      (∃ l ∈ s.sets, l.uid = owner.uid) ∨
        ∀ name ∈ copy.name, Unwanted s.sets s.given name
  | _ => True

/-- The last applier of a Secret keeps it while a set wants it, and no
entry merely fails. -/
def Keeps (s : State) : Action → Prop
  | .createSet obj => s.TakesUp (s.setsWith obj) s.given
  | .editSet obj => s.TakesUp (s.setsEdited obj) s.given
  | .deleteSet uid => s.GivesUp uid [] (s.setsWithout uid) s.given
  | .start obj ans =>
      s.GivesUp (uidOf obj) (desiredOf ans obj) (s.setsResolved ans obj)
          (s.givenResolved ans obj) ∧
        s.TakesUp (s.setsResolved ans obj) (s.givenResolved ans obj) ∧
        s.NoneFlaps obj ans
  | .effect i _ =>
      ∀ r ∈ s.running[i]?, ∀ e ∈ r.rest.head?, s.AppliesFor e
  | _ => True

instance (sets : List Live) (given : List (String × String))
    (name : String) : Decidable (Unwanted sets given name) :=
  inferInstanceAs (Decidable (∀ l ∈ sets, name ∉ l.wanted given))

instance (s : State) (uid : String) (kept : List String)
    (sets : List Live) (given : List (String × String)) :
    Decidable (s.GivesUp uid kept sets given) :=
  inferInstanceAs (Decidable (∀ x ∈ s.secrets, x.owner.uid = uid →
    ∀ name ∈ x.secret.name, name ∉ kept → Unwanted sets given name))

instance (s : State) (sets : List Live) (given : List (String × String)) :
    Decidable (s.TakesUp sets given) :=
  inferInstanceAs (Decidable (∀ l ∈ sets, ∀ name ∈ l.wanted given,
    (∀ l₀ ∈ s.sets, l₀.uid = l.uid → name ∉ l₀.wanted s.given) →
    (∀ r ∈ s.running, r.listed = true → .deleteSecret name ∉ r.rest) ∧
    ∀ x ∈ s.secrets, x.secret.name = some name →
      ∃ k ∈ sets, k.uid = x.owner.uid ∧ name ∈ k.desired))

instance (s : State) (obj : MCPGPluginSet) (ans : SetAnswers) :
    Decidable (s.NoneFlaps obj ans) :=
  inferInstanceAs (Decidable (∀ e ∈ enabledEntries obj,
    (resolveEntry (ans.getPlugin e.2) e.1).isOk = false →
    ∀ name ∈ (s.resolvedTo (uidOf obj)).lookup e.1.id,
      name ∉ desiredOf ans obj →
      ∀ x ∈ s.secrets, x.secret.name = some name →
        x.label ≠ obj.metadata.name))

instance (s : State) : ∀ e : Effect, Decidable (s.AppliesFor e)
  | .applySecret copy owner =>
      inferInstanceAs (Decidable ((∃ l ∈ s.sets, l.uid = owner.uid) ∨
        ∀ name ∈ copy.name, Unwanted s.sets s.given name))
  | .ensureTenantSecretBinding => isTrue trivial
  | .applyConfigMap _ _ _ => isTrue trivial
  | .deleteSecret _ => isTrue trivial
  | .patchStatus _ => isTrue trivial
  | .publish _ => isTrue trivial

instance (s : State) : ∀ a : Action, Decidable (Keeps s a)
  | .createSet obj =>
      inferInstanceAs (Decidable (s.TakesUp (s.setsWith obj) s.given))
  | .editSet obj =>
      inferInstanceAs (Decidable (s.TakesUp (s.setsEdited obj) s.given))
  | .deleteSet uid =>
      inferInstanceAs (Decidable
        (s.GivesUp uid [] (s.setsWithout uid) s.given))
  | .start obj ans =>
      inferInstanceAs (Decidable
        (s.GivesUp (uidOf obj) (desiredOf ans obj) (s.setsResolved ans obj)
            (s.givenResolved ans obj) ∧
          s.TakesUp (s.setsResolved ans obj) (s.givenResolved ans obj) ∧
          s.NoneFlaps obj ans))
  | .effect i _ =>
      inferInstanceAs (Decidable (∀ r ∈ s.running[i]?,
        ∀ e ∈ r.rest.head?, s.AppliesFor e))
  | .list _ => isTrue trivial
  | .stop _ => isTrue trivial
  | .collect _ => isTrue trivial

/-! ## The invariant -/

structure Tracks (libs : SetLibs) (s : State) (r : Running) : Prop where
  version : r.obj ∈ s.versions
  effects : r.rest ⊆ (reconcileInner libs r.ans r.obj).trace
  /-- The set is the pass's own, or a later one that no pass has seen. -/
  desired : ∀ l ∈ s.sets, l.obj.metadata.name = r.obj.metadata.name →
    (l.uid = r.uid ∧ l.desired = desiredOf r.ans r.obj) ∨
      (l.uid ≠ r.uid ∧ l.desired = [])
  unflapped : ∀ name, r.merelyFailed name →
    name ∉ desiredOf r.ans r.obj →
    ∀ x ∈ s.secrets, x.secret.name = some name →
      x.label ≠ r.obj.metadata.name
  stale : r.listed = true → ∀ name, .deleteSecret name ∈ r.rest →
    Unwanted s.sets s.given name ∧ ¬ r.merelyFailed name

structure Inv (libs : SetLibs) (s : State) : Prop where
  named : ∀ v ∈ s.versions, v.metadata.name.isSome = true
  sameName : ∀ v ∈ s.versions, ∀ w ∈ s.versions, uidOf v = uidOf w →
    v.metadata.name = w.metadata.name
  stored : ∀ l ∈ s.sets, l.obj ∈ s.versions
  labelled : ∀ x ∈ s.secrets, ∃ v ∈ s.versions,
    x.owner.uid = uidOf v ∧ x.label = v.metadata.name
  /-- The last applier of a Secret desires it if any set wants it. -/
  custody : ∀ x ∈ s.secrets, ∀ name ∈ x.secret.name, ∀ l ∈ s.sets,
    name ∈ l.wanted s.given → ∃ k ∈ s.sets, k.uid = x.owner.uid ∧
      name ∈ k.desired
  names : (s.running.map (·.obj.metadata.name)).Nodup
  running : ∀ r ∈ s.running, Tracks libs s r
  deleted : ∀ d ∈ s.deleted, d.Safe

section Steps

variable {libs : SetLibs} {s s' : State} {i : Nat} {r : Running}

/-! ## Sets come and go -/

variable {sets : List Live} {given : List (String × String)}

/-- The last applier of a Secret goes on to desire it, or nobody wants it
any more. -/
theorem custody_change (hinv : Inv libs s) (htakes : s.TakesUp sets given)
    (hgives : ∀ k ∈ s.sets, ∀ x ∈ s.secrets, x.owner.uid = k.uid →
      ∀ name ∈ x.secret.name, name ∈ k.desired →
        (∃ k' ∈ sets, k'.uid = k.uid ∧ name ∈ k'.desired) ∨
          Unwanted sets given name)
    {x : Stored} (hx : x ∈ s.secrets) {name : String}
    (hxname : name ∈ x.secret.name) {l : Live} (hl : l ∈ sets)
    (hwanted : name ∈ l.wanted given) :
    ∃ k ∈ sets, k.uid = x.owner.uid ∧ name ∈ k.desired := by
  by_cases hnew : ∀ l₀ ∈ s.sets, l₀.uid = l.uid → name ∉ l₀.wanted s.given
  · exact (htakes l hl name hwanted hnew).2 x hx hxname
  · push Not at hnew
    obtain ⟨l₀, hl₀, _, hold⟩ := hnew
    obtain ⟨k, hk, howner, hdesired⟩ :=
      hinv.custody x hx name hxname l₀ hl₀ hold
    rcases hgives k hk x hx howner.symm name hxname hdesired with
      ⟨k', hk', huid, hkept⟩ | hnone
    · exact ⟨k', hk', huid.trans howner, hkept⟩
    · exact absurd hwanted (hnone l hl)

/-- What is about to be pruned stays unwanted. -/
theorem unwanted_change (hinv : Inv libs s) (htakes : s.TakesUp sets given)
    (hr : r ∈ s.running) (hlisted : r.listed = true) {name : String}
    (hmem : .deleteSecret name ∈ r.rest) : Unwanted sets given name := by
  intro l hl hwanted
  have hnew : ∀ l₀ ∈ s.sets, l₀.uid = l.uid → name ∉ l₀.wanted s.given :=
    fun l₀ hl₀ _ => ((hinv.running r hr).stale hlisted name hmem).1 l₀ hl₀
  exact (htakes l hl name hwanted hnew).1 r hr hlisted hmem

theorem inv_createSet {obj : MCPGPluginSet} (hinv : Inv libs s)
    (hname : obj.metadata.name.isSome = true)
    (hfresh : ∀ v ∈ s.versions, uidOf v ≠ uidOf obj)
    (htakes : s.TakesUp (s.setsWith obj) s.given) :
    Inv libs
      { s with sets := s.setsWith obj, versions := s.versions ++ [obj] } := by
  have hversions : s.versions ⊆ s.versions ++ [obj] :=
    List.subset_append_left _ _
  refine ⟨?_, ?_, ?_, ?_, ?_, hinv.names, ?_, hinv.deleted⟩
  · intro v hv
    rcases List.mem_append.mp hv with hold | hv
    · exact hinv.named v hold
    · rw [List.mem_singleton.mp hv]
      exact hname
  · intro v hv w hw huid
    rcases List.mem_append.mp hv with hv | hv <;>
      rcases List.mem_append.mp hw with hw | hw
    · exact hinv.sameName v hv w hw huid
    · rw [List.mem_singleton.mp hw] at huid
      exact absurd huid (hfresh v hv)
    · rw [List.mem_singleton.mp hv] at huid
      exact absurd huid.symm (hfresh w hw)
    · rw [List.mem_singleton.mp hv, List.mem_singleton.mp hw]
  · intro l hl
    rcases List.mem_append.mp hl with hold | hl
    · exact hversions (hinv.stored l hold)
    · rw [List.mem_singleton.mp hl]
      exact List.mem_append_right _ (List.mem_singleton_self _)
  · intro x hx
    obtain ⟨v, hv, hlabel⟩ := hinv.labelled x hx
    exact ⟨v, hversions hv, hlabel⟩
  · intro x hx name hxname l hl hwanted
    refine custody_change hinv htakes ?_ hx hxname hl hwanted
    intro k hk _ _ _ _ _ hdesired
    exact .inl ⟨k, List.mem_append_left _ hk, rfl, hdesired⟩
  · intro r hr
    have htracks := hinv.running r hr
    refine ⟨hversions htracks.version, htracks.effects, ?_,
      htracks.unflapped, ?_⟩
    · intro l hl hsame
      rcases List.mem_append.mp hl with hold | hl
      · exact htracks.desired l hold hsame
      · rw [List.mem_singleton.mp hl]
        exact .inr ⟨fun huid => hfresh _ htracks.version huid.symm, rfl⟩
    · intro hlisted name hmem
      exact ⟨unwanted_change hinv htakes hr hlisted hmem,
        (htracks.stale hlisted name hmem).2⟩

theorem inv_deleteSet {uid : String} (hinv : Inv libs s)
    (hgives : s.GivesUp uid [] (s.setsWithout uid) s.given) :
    Inv libs { s with sets := s.setsWithout uid } := by
  have hsub : ∀ l ∈ s.setsWithout uid, l ∈ s.sets :=
    fun l hl => List.mem_of_mem_filter hl
  -- nobody comes to want what nobody wanted
  have htakes : s.TakesUp (s.setsWithout uid) s.given :=
    fun l hl name hwanted hnew => absurd hwanted (hnew l (hsub l hl) rfl)
  refine ⟨hinv.named, hinv.sameName, ?_, hinv.labelled, ?_, hinv.names, ?_,
    hinv.deleted⟩
  · exact fun l hl => hinv.stored l (hsub l hl)
  · intro x hx name hxname l hl hwanted
    refine custody_change hinv htakes ?_ hx hxname hl hwanted
    intro k hk x hx howner name hxname hdesired
    by_cases huid : k.uid = uid
    · exact .inr (hgives x hx (howner.trans huid) name hxname
        fun h => nomatch h)
    · exact .inl ⟨k, List.mem_filter.mpr ⟨hk, decide_eq_true huid⟩, rfl,
        hdesired⟩
  · intro r hr
    have htracks := hinv.running r hr
    refine ⟨htracks.version, htracks.effects, ?_, htracks.unflapped, ?_⟩
    · exact fun l hl => htracks.desired l (hsub l hl)
    · intro hlisted name hmem
      obtain ⟨hunwanted, hremoved⟩ := htracks.stale hlisted name hmem
      exact ⟨fun l hl => hunwanted l (hsub l hl), hremoved⟩

theorem inv_editSet {obj : MCPGPluginSet} (hinv : Inv libs s)
    (hset : ∃ l ∈ s.sets, l.uid = uidOf obj ∧
      l.obj.metadata.name = obj.metadata.name)
    (htakes : s.TakesUp (s.setsEdited obj) s.given) :
    Inv libs
      { s with
        sets := s.setsEdited obj, versions := s.versions ++ [obj] } := by
  obtain ⟨l₀, hl₀, huid₀, hname₀⟩ := hset
  have hversions : s.versions ⊆ s.versions ++ [obj] :=
    List.subset_append_left _ _
  -- the new version stands beside the one that was stored
  have hwas : ∀ v ∈ s.versions ++ [obj], ∃ w ∈ s.versions,
      uidOf v = uidOf w ∧ v.metadata.name = w.metadata.name := by
    intro v hv
    rcases List.mem_append.mp hv with hold | hv
    · exact ⟨v, hold, rfl, rfl⟩
    · rw [List.mem_singleton.mp hv]
      exact ⟨l₀.obj, hinv.stored l₀ hl₀, huid₀.symm, hname₀.symm⟩
  -- and a set is edited in its spec alone
  have hedit : ∀ l ∈ s.sets, ∀ l', l' =
      (if l.uid = uidOf obj then { l with obj := obj } else l) →
      l'.uid = l.uid ∧ l'.desired = l.desired ∧
        l'.obj ∈ s.versions ++ [obj] ∧
        l'.obj.metadata.name = l.obj.metadata.name := by
    rintro l hl l' rfl
    split
    · next huid =>
        refine ⟨huid.symm, rfl, List.mem_append_right _
          (List.mem_singleton_self _), ?_⟩
        rw [← hname₀]
        exact hinv.sameName _ (hinv.stored l₀ hl₀) _ (hinv.stored l hl)
          (huid₀.trans huid.symm)
    · exact ⟨rfl, rfl, hversions (hinv.stored l hl), rfl⟩
  refine ⟨?_, ?_, ?_, ?_, ?_, hinv.names, ?_, hinv.deleted⟩
  · intro v hv
    obtain ⟨w, hw, _, hname⟩ := hwas v hv
    rw [hname]
    exact hinv.named w hw
  · intro v hv w hw huid
    obtain ⟨v', hv', hvuid, hvname⟩ := hwas v hv
    obtain ⟨w', hw', hwuid, hwname⟩ := hwas w hw
    rw [hvname, hwname]
    exact hinv.sameName v' hv' w' hw' (hvuid.symm.trans (huid.trans hwuid))
  · intro l' hl'
    obtain ⟨l, hl, heq⟩ := List.mem_map.mp hl'
    exact (hedit l hl l' heq.symm).2.2.1
  · intro x hx
    obtain ⟨v, hv, hlabel⟩ := hinv.labelled x hx
    exact ⟨v, hversions hv, hlabel⟩
  · intro x hx name hxname l' hl' hwanted
    refine custody_change hinv htakes ?_ hx hxname hl' hwanted
    intro k hk _ _ _ name _ hdesired
    obtain ⟨hkuid, hkdesired, _⟩ := hedit k hk _ rfl
    refine .inl ⟨_, List.mem_map_of_mem hk, hkuid, ?_⟩
    rw [hkdesired]
    exact hdesired
  · intro r hr
    have htracks := hinv.running r hr
    refine ⟨hversions htracks.version, htracks.effects, ?_,
      htracks.unflapped, ?_⟩
    · intro l' hl' hsame
      obtain ⟨l, hl, heq⟩ := List.mem_map.mp hl'
      obtain ⟨huid, hdesired, _, hname⟩ := hedit l hl l' heq.symm
      rw [huid, hdesired]
      exact htracks.desired l hl (hname.symm.trans hsame)
    · intro hlisted name hmem
      exact ⟨unwanted_change hinv htakes hr hlisted hmem,
        (htracks.stale hlisted name hmem).2⟩

/-! ## A pass starts -/

theorem afterResolve_uid (ans : SetAnswers) (obj : MCPGPluginSet)
    (l : Live) : (l.afterResolve ans obj).uid = l.uid := by
  unfold Live.afterResolve
  split <;> rfl

theorem afterResolve_obj (ans : SetAnswers) (obj : MCPGPluginSet)
    (l : Live) : (l.afterResolve ans obj).obj = l.obj := by
  unfold Live.afterResolve
  split <;> rfl

theorem afterResolve_desired (ans : SetAnswers) (obj : MCPGPluginSet)
    (l : Live) : (l.afterResolve ans obj).desired =
      if l.uid = uidOf obj then desiredOf ans obj else l.desired := by
  unfold Live.afterResolve
  split <;> rfl

theorem inv_start {obj : MCPGPluginSet} {ans : SetAnswers}
    (hinv : Inv libs s) (hobj : obj ∈ s.versions)
    (hidle : ∀ r ∈ s.running, r.obj.metadata.name ≠ obj.metadata.name)
    (hown : ∀ l ∈ s.sets, l.obj.metadata.name = obj.metadata.name →
      l.uid = uidOf obj) (hkeeps : Keeps s (.start obj ans)) :
    Inv libs
      { s with
        sets := s.setsResolved ans obj
        given := s.givenResolved ans obj
        running :=
          s.running ++
            [{ obj := obj, ans := ans
               before := s.resolvedTo (uidOf obj)
               rest := (reconcileInner libs ans obj).trace
               listed := false }] } := by
  obtain ⟨hgives, htakes, hflaps⟩ := hkeeps
  refine ⟨hinv.named, hinv.sameName, ?_, hinv.labelled, ?_, ?_, ?_,
    hinv.deleted⟩
  · intro l' hl'
    obtain ⟨l, hl, rfl⟩ := List.mem_map.mp hl'
    rw [afterResolve_obj]
    exact hinv.stored l hl
  · intro x hx name hxname l' hl' hwanted
    refine custody_change hinv htakes ?_ hx hxname hl' hwanted
    intro k hk x hx howner name hxname hdesired
    have hk' : ∀ name, name ∈ (k.afterResolve ans obj).desired →
        ∃ k' ∈ s.setsResolved ans obj, k'.uid = k.uid ∧
          name ∈ k'.desired := fun name hdesired =>
      ⟨_, List.mem_map_of_mem hk, afterResolve_uid ans obj k, hdesired⟩
    rw [afterResolve_desired] at hk'
    split at hk'
    · next huid =>
        by_cases hkept : name ∈ desiredOf ans obj
        · exact .inl (hk' name hkept)
        · -- the pass gives up nothing that a set wants
          exact .inr (hgives x hx (howner.trans huid) name hxname hkept)
    · exact .inl (hk' name hdesired)
  · rw [List.map_append, List.nodup_append]
    refine ⟨hinv.names, List.pairwise_singleton _ _, ?_⟩
    intro name hname name' hname'
    obtain ⟨r, hr, rfl⟩ := List.mem_map.mp hname
    rw [List.mem_singleton.mp hname']
    exact hidle r hr
  · intro r hr
    rcases List.mem_append.mp hr with hold | hr
    · have htracks := hinv.running r hold
      refine ⟨htracks.version, htracks.effects, ?_, htracks.unflapped, ?_⟩
      · intro l' hl' hsame
        obtain ⟨l, hl, rfl⟩ := List.mem_map.mp hl'
        rw [afterResolve_obj] at hsame
        have huid : l.uid ≠ uidOf obj := by
          intro huid
          refine hidle r hold (hsame.symm.trans ?_)
          exact hinv.sameName _ (hinv.stored l hl) _ hobj huid
        rw [afterResolve_uid, afterResolve_desired, if_neg huid]
        exact htracks.desired l hl hsame
      · intro hlisted name hmem
        exact ⟨unwanted_change hinv htakes hold hlisted hmem,
          (htracks.stale hlisted name hmem).2⟩
    · rw [List.mem_singleton.mp hr]
      refine ⟨hobj, List.Subset.refl _, ?_, ?_,
        fun hlisted => nomatch hlisted⟩
      · intro l' hl' hsame
        obtain ⟨l, hl, rfl⟩ := List.mem_map.mp hl'
        rw [afterResolve_obj] at hsame
        have huid := hown l hl hsame
        rw [afterResolve_uid, afterResolve_desired, if_pos huid]
        exact .inl ⟨huid, rfl⟩
      · rintro name ⟨e, he, hfailed, hbefore⟩ hgone x hx hxname
        exact hflaps e he hfailed name hbefore hgone x hx hxname

/-! ## A pass goes on -/

theorem Tracks.withRunning {running : List Running}
    (h : Tracks libs s r) : Tracks libs { s with running := running } r :=
  ⟨h.version, h.effects, h.desired, h.unflapped, h.stale⟩

theorem inv_setRunning {r' : Running} (hinv : Inv libs s)
    (hr : s.running[i]? = some r) (hobj : r'.obj = r.obj)
    (htracks : Tracks libs s r') : Inv libs (s.setRunning i r') := by
  refine ⟨hinv.named, hinv.sameName, hinv.stored, hinv.labelled,
    hinv.custody, ?_, ?_, hinv.deleted⟩
  · obtain ⟨hi, hri⟩ := List.getElem?_eq_some_iff.mp hr
    have hsame : (s.running.set i r').map (·.obj.metadata.name) =
        s.running.map (·.obj.metadata.name) := by
      rw [List.map_set, hobj, ← hri]
      refine List.ext_getElem (by simp) fun j hj hj' => ?_
      rw [List.getElem_set, List.getElem_map]
      split
      · next heq =>
          subst heq
          rfl
      · rfl
    show ((s.running.set i r').map (·.obj.metadata.name)).Nodup
    rw [hsame]
    exact hinv.names
  · intro q hq
    rcases List.mem_or_eq_of_mem_set hq with hold | rfl
    · exact (hinv.running q hold).withRunning
    · exact htracks.withRunning

theorem eq_of_name_eq {q : Running} (hinv : Inv libs s)
    (hr : r ∈ s.running) (hq : q ∈ s.running)
    (hname : q.obj.metadata.name = r.obj.metadata.name) : q = r :=
  List.inj_on_of_nodup_map hinv.names hq hr hname

theorem inv_list (hinv : Inv libs s) (hr : s.running[i]? = some r)
    (hlists : s.lists r = true) :
    Inv libs (s.setRunning i { r with listed := true }) := by
  have htracks := hinv.running r (List.mem_of_getElem? hr)
  refine inv_setRunning hinv hr rfl ⟨htracks.version, htracks.effects,
    htracks.desired, htracks.unflapped, fun _ name hmem => ?_⟩
  obtain ⟨⟨items, hitems, x, hx, hxname⟩, hgone⟩ :=
    of_mem_pruneStaleSecrets (of_deleteSecret_mem (htracks.effects hmem))
  -- the Secret is stored, under the pass's label
  obtain ⟨y, hy, hlabel, rfl⟩ : ∃ y ∈ s.secrets,
      y.label = r.obj.metadata.name ∧ y.secret = x := by
    unfold State.lists at hlists
    rw [hitems] at hlists
    rw [beq_iff_eq.mp hlists] at hx
    obtain ⟨y, hy, hyx⟩ := List.mem_map.mp hx
    obtain ⟨hy, hlabel⟩ := List.mem_filter.mp hy
    exact ⟨y, hy, beq_iff_eq.mp hlabel, hyx⟩
  constructor
  · intro l hl hwanted
    obtain ⟨k, hk, howner, hkdesired⟩ :=
      hinv.custody y hy name hxname l hl hwanted
    obtain ⟨v, hv, hvuid, hvlabel⟩ := hinv.labelled y hy
    -- its last applier bears the pass's name, and does not desire it
    have hkname : k.obj.metadata.name = r.obj.metadata.name := by
      rw [← hlabel, hvlabel]
      exact hinv.sameName _ (hinv.stored k hk) _ hv (howner.trans hvuid)
    rcases htracks.desired k hk hkname with ⟨_, heq⟩ | ⟨_, heq⟩
    · exact hgone (heq ▸ hkdesired)
    · rw [heq] at hkdesired
      cases hkdesired
  · intro hfailed
    exact htracks.unflapped name hfailed hgone y hy hxname hlabel

theorem inv_put {copy : Secret} {owner : OwnerReference}
    (hinv : Inv libs s) (hr : r ∈ s.running)
    (hmem : .applySecret copy owner ∈ r.rest)
    (hfor : s.AppliesFor (.applySecret copy owner)) :
    Inv libs (s.put { secret := copy, owner := owner }) := by
  have htracks := hinv.running r hr
  obtain ⟨⟨n, hn, hcopy⟩, hownerUid, hlabel⟩ :=
    of_applySecret_mem (htracks.effects hmem)
  have hlabel : Stored.label { secret := copy, owner := owner } =
      r.obj.metadata.name := by
    obtain ⟨name, hname⟩ := Option.isSome_iff_exists.mp
      (hinv.named _ htracks.version)
    rw [hlabel, hname]
    rfl
  refine ⟨hinv.named, hinv.sameName, hinv.stored, ?_, ?_, hinv.names, ?_,
    hinv.deleted⟩
  · intro x hx
    rcases List.mem_append.mp hx with hold | hx
    · exact hinv.labelled x (List.mem_of_mem_filter hold)
    · rw [List.mem_singleton.mp hx]
      exact ⟨r.obj, htracks.version, hownerUid, hlabel⟩
  · intro x hx name hxname l hl hwanted
    rcases List.mem_append.mp hx with hold | hx
    · exact hinv.custody x (List.mem_of_mem_filter hold) name hxname l hl
        hwanted
    · rw [List.mem_singleton.mp hx] at hxname ⊢
      have hname : name = n := Option.some.inj (hxname.symm.trans hcopy)
      rcases hfor with ⟨k, hk, hkuid⟩ | hnone
      · -- the set of the pass is there, and desires what the pass applies
        have hkname := hinv.sameName _ (hinv.stored k hk) _
          htracks.version (hkuid.trans hownerUid)
        rcases htracks.desired k hk hkname with ⟨_, heq⟩ | ⟨hne, _⟩
        · refine ⟨k, hk, hkuid, ?_⟩
          rw [heq, hname]
          exact hn
        · exact absurd (hkuid.trans hownerUid) hne
      · exact absurd hwanted (hnone name hxname l hl)
  · intro q hq
    have hqtracks := hinv.running q hq
    refine ⟨hqtracks.version, hqtracks.effects, hqtracks.desired, ?_,
      hqtracks.stale⟩
    intro name hfailed hgone x hx hxname
    rcases List.mem_append.mp hx with hold | hx
    · exact hqtracks.unflapped name hfailed hgone x
        (List.mem_of_mem_filter hold) hxname
    · rw [List.mem_singleton.mp hx] at hxname ⊢
      rw [hlabel]
      intro hname
      -- the pass applies what it desires
      rw [eq_of_name_eq hinv hr hq hname.symm] at hgone
      exact hgone (Option.some.inj (hxname.symm.trans hcopy) ▸ hn)

theorem inv_remove {name : String} {pass : Option Running}
    (hinv : Inv libs s)
    (hsafe : Deletion.Safe
      { name := name, pass := pass, sets := s.sets, given := s.given }) :
    Inv libs (s.remove name pass) := by
  unfold State.remove
  split
  · refine ⟨hinv.named, hinv.sameName, hinv.stored, ?_, ?_, hinv.names, ?_,
      ?_⟩
    · exact fun x hx => hinv.labelled x (List.mem_of_mem_filter hx)
    · exact fun x hx => hinv.custody x (List.mem_of_mem_filter hx)
    · intro r hr
      have htracks := hinv.running r hr
      exact ⟨htracks.version, htracks.effects, htracks.desired,
        fun name hfailed hgone x hx => htracks.unflapped name hfailed hgone
          x (List.mem_of_mem_filter hx), htracks.stale⟩
    · intro d hd
      rcases List.mem_append.mp hd with hold | hd
      · exact hinv.deleted d hold
      · rw [List.mem_singleton.mp hd]
        exact hsafe
  · exact hinv

theorem safe_of_unwanted {d : Deletion}
    (hunwanted : Unwanted d.sets d.given d.name)
    (hremoved : ∀ r ∈ d.pass, ¬ r.merelyFailed d.name) : d.Safe :=
  ⟨fun l hl hneeded => hunwanted l hl (List.mem_append_right _ hneeded),
    fun l hl _ hdesired => hunwanted l hl (List.mem_append_left _ hdesired),
    hremoved⟩

theorem inv_perform {e : Effect} (hinv : Inv libs s) (hr : r ∈ s.running)
    (hmem : e ∈ r.rest) (hlisted : isDelete e = true → r.listed = true)
    (hfor : s.AppliesFor e) : Inv libs (s.perform r e) := by
  cases e with
  | applySecret copy owner => exact inv_put hinv hr hmem hfor
  | deleteSecret name =>
      obtain ⟨hunwanted, hremoved⟩ :=
        (hinv.running r hr).stale (hlisted rfl) name hmem
      refine inv_remove hinv (safe_of_unwanted hunwanted ?_)
      rintro _ ⟨⟩
      exact hremoved
  | _ => exact hinv

theorem perform_running (s : State) (r : Running) (e : Effect) :
    (s.perform r e).running = s.running := by
  cases e with
  | deleteSecret name =>
      show (s.remove name (some r)).running = s.running
      unfold State.remove
      split <;> rfl
  | _ => rfl

theorem inv_effect {e : Effect} {rest : List Effect} {done : Bool}
    (hinv : Inv libs s) (hr : s.running[i]? = some r)
    (hrest : r.rest = e :: rest)
    (hlisted : isDelete e = true → r.listed = true)
    (hfor : s.AppliesFor e) : Inv libs (s.effect i r e rest done) := by
  have hmem : e ∈ r.rest := by
    rw [hrest]
    exact List.mem_cons_self
  have hperformed : Inv libs (if done then s.perform r e else s) := by
    split
    · exact inv_perform hinv (List.mem_of_getElem? hr) hmem hlisted hfor
    · exact hinv
  have hr' : (if done then s.perform r e else s).running[i]? = some r := by
    split
    · rw [perform_running]
      exact hr
    · exact hr
  have htracks := hperformed.running r (List.mem_of_getElem? hr')
  have hsub : rest ⊆ r.rest := by
    rw [hrest]
    exact List.subset_cons_self e rest
  exact inv_setRunning hperformed hr' rfl ⟨htracks.version,
    List.Subset.trans hsub htracks.effects, htracks.desired, htracks.unflapped,
    fun hlisted name hname => htracks.stale hlisted name (hsub hname)⟩

theorem inv_stop (hinv : Inv libs s) :
    Inv libs { s with running := s.running.eraseIdx i } := by
  refine ⟨hinv.named, hinv.sameName, hinv.stored, hinv.labelled,
    hinv.custody, ?_, ?_, hinv.deleted⟩
  · exact hinv.names.sublist ((List.eraseIdx_sublist _ _).map _)
  · intro r hr
    exact (hinv.running r (List.mem_of_mem_eraseIdx hr)).withRunning

/-- The owner of what is collected is gone, so no set wants it. -/
theorem inv_collect {name : String} (hinv : Inv libs s)
    (hdead : ∃ x ∈ s.secrets, x.secret.name = some name ∧
      ∀ l ∈ s.sets, l.uid ≠ x.owner.uid) :
    Inv libs (s.remove name none) := by
  obtain ⟨x, hx, hxname, hdead⟩ := hdead
  refine inv_remove hinv
    (safe_of_unwanted (fun l hl hwanted => ?_) fun _ h => nomatch h)
  obtain ⟨k, hk, howner, _⟩ :=
    hinv.custody x hx name hxname l hl hwanted
  exact hdead k hk howner

theorem inv_step {a : Action} (hinv : Inv libs s) (hkeeps : Keeps s a)
    (h : s.step libs a = some s') : Inv libs s' := by
  cases a with
  | createSet obj =>
      dsimp only [State.step] at h
      split at h
      · next hcreate =>
          cases h
          exact inv_createSet hinv hcreate.1 hcreate.2.2 hkeeps
      · cases h
  | editSet obj =>
      dsimp only [State.step] at h
      split at h
      · next hset =>
          cases h
          exact inv_editSet hinv hset hkeeps
      · cases h
  | deleteSet uid =>
      cases h
      exact inv_deleteSet hinv hkeeps
  | start obj ans =>
      dsimp only [State.step] at h
      split at h
      · next hstart =>
          cases h
          exact inv_start hinv hstart.1 hstart.2.2.1 hstart.2.2.2 hkeeps
      · cases h
  | list i =>
      dsimp only [State.step] at h
      split at h
      · cases h
      next r hr =>
      split at h
      · next hlists =>
          cases h
          exact inv_list hinv hr (Bool.and_eq_true_iff.mp hlists).2
      · cases h
  | effect i done =>
      dsimp only [State.step] at h
      split at h
      · cases h
      next r hr =>
      split at h
      · cases h
      next e rest hrest =>
      split at h
      · cases h
      next hlisted =>
      cases h
      refine inv_effect hinv hr hrest ?_ (hkeeps r hr e ?_)
      · intro hdelete
        rw [hdelete, Bool.true_and, Bool.not_eq_true'] at hlisted
        exact Bool.not_eq_false _ ▸ hlisted
      · rw [hrest]
        rfl
  | stop i =>
      cases h
      exact inv_stop hinv
  | collect name =>
      dsimp only [State.step] at h
      split at h
      · next hdead =>
          cases h
          exact inv_collect hinv hdead
      · cases h

theorem inv_init (h : (system libs).init s) : Inv libs s := by
  cases h
  constructor
  · exact fun _ hv => nomatch hv
  · exact fun _ hv => nomatch hv
  · exact fun _ hl => nomatch hl
  · exact fun _ hx => nomatch hx
  · exact fun _ hx => nomatch hx
  · exact List.nodup_nil
  · exact fun _ hr => nomatch hr
  · exact fun _ hd => nomatch hd

end Steps

/-! ## Two sets and one plugin -/

namespace Sample

def set : MCPGPluginSet := PluginSet.Reconcile.Sample.set

def other : MCPGPluginSet :=
  { set with
    metadata :=
      { set.metadata with name := some "audited", uid := some "9b2e" } }

def emptied (obj : MCPGPluginSet) : MCPGPluginSet :=
  { obj with spec := { obj.spec with entries := [] } }

def source : Secret where
  name := some "plugin-audit"
  namespace_ := some operatorNamespace

/-- The copy a set has in the namespace. -/
def copyOf (obj : MCPGPluginSet) : Secret :=
  (buildNamespaceCopy obj "payments" source
    { entryId := "audit", pluginName := "audit", pluginVersion := "1.0.0"
      pluginClass := "middleware", artefactSecretName := "plugin-audit"
      resolvedDigest := "ab12", config := .null }).1

/-- The plugin and its Secret are there, and so are these copies. -/
def answers (copies : List Secret) : SetAnswers :=
  { PluginSet.Reconcile.Sample.sourceGone with
    getSource := fun _ => .ok (some source)
    listSecrets := .ok copies }

def unreachable : SetAnswers :=
  { answers [copyOf set] with
    getPlugin := fun _ => .error (.api 503 "etcdserver: request timed out") }

def start : State where
  sets := []
  versions := []
  given := []
  secrets := []
  running := []
  deleted := []

/-- A pass up to its first `n` effects, its list, and `m` effects more. -/
def pass (obj : MCPGPluginSet) (ans : SetAnswers) (n m : Nat) :
    List Action :=
  [.start obj ans] ++ List.replicate n (.effect 0 true) ++ [.list 0] ++
    List.replicate m (.effect 0 true) ++ [.stop 0]

/-- The set is created, and its Secret projected. -/
def projected : List Action :=
  .createSet set :: pass set (answers [copyOf set]) 3 2

/-- The other set shares the Secret, and applies it last. -/
def shared : List Action :=
  projected ++ .createSet other :: pass other (answers [copyOf other]) 3 2

end Sample

end McpgOperator.Pruning
