import McpgOperator.Kube.FinalizerPatch

/-!
# When the finalizer helpers compose

`ensure_finalizer` tests the version of the object it holds, and a version is
given out once, so its patch only ever meets that very object.
`remove_finalizer` writes back a list it has read, by name. While the object it
read is being deleted nobody can add to that list, so what is stored is within
it, and the apiserver refuses the list if something is missing from what is
stored. Both arguments are about one object: under the same name there may by
then be another, with finalizers of its own, which the list replaces.
-/

namespace McpgOperator.Kube

open Transition

/-! ## What is sent -/

/-- The helper fails, sends nothing, or sends the patch and passes its answer
on. -/
theorem ensureFinalizer_eq (patched : Except KubeError Unit)
    (m : ObjectMeta) :
    ensureFinalizer patched m =
      match ensureRequest m operatorFinalizer with
      | .error e => .error e
      | .ok none => .ok false
      | .ok (some _) =>
          match patched with
          | .ok _ => .ok true
          | .error e =>
              .error (if isConflict e then .conflict else .patch e) := by
  unfold ensureFinalizer ensureRequest ObjectMeta.hasFinalizer
  split
  · rfl
  · cases hversion : m.resourceVersion with
    | none => rfl
    | some version =>
        cases m.finalizers.isSome <;> cases patched <;> rfl

/-- The finalizers of what is stored. -/
def finalizersOf (o : Option ObjectMeta) : List String :=
  (o.bind (·.finalizers)).getD []

@[simp] theorem finalizersOf_none : finalizersOf none = [] := rfl

@[simp] theorem finalizersOf_some (m : ObjectMeta) :
    finalizersOf (some m) = m.finalizers.getD [] := rfl

theorem hasFinalizer_iff {m : ObjectMeta} {f : String} :
    m.hasFinalizer f = true ↔ f ∈ finalizersOf (some m) := by
  simp [ObjectMeta.hasFinalizer]

theorem finalizersOf_stored (m : ObjectMeta) (l : List String)
    (version : String) : finalizersOf (stored m l version) = l := by
  unfold stored
  split
  · next h => rw [h.2, finalizersOf_none]
  · rw [finalizersOf_some]
    split
    · next h => rw [h, Option.getD_none]
    · rfl

theorem mem_withoutFinalizer {m : ObjectMeta} {f g : String} :
    g ∈ withoutFinalizer m f ↔ g ∈ finalizersOf (some m) ∧ g ≠ f := by
  unfold withoutFinalizer
  cases hm : m.finalizers with
  | none => simp [hm]
  | some l => simp [hm, List.mem_filter]

/-- What is sent is the list that was read, without the finalizer. -/
theorem removeRequest_eq_some {m : ObjectMeta} {f : String}
    {p : FinalizerPatch} (h : removeRequest m f = some p) :
    p = .merge (withoutFinalizer m f) := by
  unfold removeRequest at h
  dsimp only at h
  split at h
  · cases h
  · exact (Option.some.inj h).symm

theorem mem_of_deletionAllows {m : ObjectMeta} {l : List String}
    (h : deletionAllows m l = true)
    (hdeleting : m.deletionTimestamp.isSome = true) :
    ∀ f ∈ l, f ∈ finalizersOf (some m) := by
  unfold deletionAllows at h
  rw [Option.isNone_eq_false_iff.mpr hdeleting, Bool.false_or,
    List.all_eq_true] at h
  exact fun f hf => hasFinalizer_iff.mp (h f hf)

/-! ## The invariant -/

/-- What a reconcile that will patch knows of what is stored. -/
def Pending.Knows (s : FinalizerState) : Pending → Prop
  | .ensuring held =>
      (∃ version ∈ s.versions, held.resourceVersion = some version) ∧
        ∀ m, s.object = some m →
          m.resourceVersion = held.resourceVersion → m = held
  | .fetching => True
  | .removing read =>
      (∃ uid ∈ s.uids, read.uid = some uid) ∧
        ∀ m, s.object = some m → m.uid = read.uid →
          read.deletionTimestamp.isSome = true →
            m.deletionTimestamp.isSome = true ∧
              ∀ f ∈ finalizersOf (some m), f ∈ finalizersOf (some read)

structure FinalizerInv (s : FinalizerState) : Prop where
  version : ∀ m, s.object = some m →
    ∃ version ∈ s.versions, m.resourceVersion = some version
  uid : ∀ m, s.object = some m → ∃ uid ∈ s.uids, m.uid = some uid
  normal : ∀ m, s.object = some m → m.finalizers ≠ some []
  knows : ∀ p ∈ s.pending, p.Knows s

variable {s s' : FinalizerState} {name : String}

theorem finalizerInv_start (h : FinalizerStart s) : FinalizerInv s where
  version := fun m hm => (h.object m hm).1
  uid := fun m hm => (h.object m hm).2.1
  normal := fun m hm => (h.object m hm).2.2
  knows := by
    rw [h.pending]
    exact List.forall_mem_nil _

/-- Fewer reconciles know no less. -/
theorem finalizerInv_finish (hinv : FinalizerInv s) (i : Nat) :
    FinalizerInv (s.finish i) where
  version := hinv.version
  uid := hinv.uid
  normal := hinv.normal
  knows := fun p hp => hinv.knows p (List.mem_of_mem_eraseIdx hp)

/-- A write to the object: the same object with a version of its own, whose
list is within the old one while it is being deleted. -/
structure Rewrites (m : ObjectMeta) (version : String)
    (o : Option ObjectMeta) : Prop where
  uid : ∀ m', o = some m' → m'.uid = m.uid
  version : ∀ m', o = some m' → m'.resourceVersion = some version
  normal : ∀ m', o = some m' → m'.finalizers ≠ some []
  deleting : ∀ m', o = some m' → m.deletionTimestamp.isSome = true →
    m'.deletionTimestamp.isSome = true ∧
      ∀ f ∈ finalizersOf (some m'), f ∈ finalizersOf (some m)

theorem finalizerInv_put (hinv : FinalizerInv s) {m : ObjectMeta}
    {version : String} {o : Option ObjectMeta} (hm : s.object = some m)
    (hversion : version ∉ s.versions) (ho : Rewrites m version o) :
    FinalizerInv (s.put o version) where
  version := fun m' hm' => ⟨version, List.mem_cons_self, ho.version m' hm'⟩
  uid := by
    intro m' hm'
    rw [ho.uid m' hm']
    exact hinv.uid m hm
  normal := ho.normal
  knows := by
    intro p hp
    have hknows := hinv.knows p hp
    cases p with
    | ensuring held =>
        obtain ⟨⟨v, hv, hheld⟩, _⟩ := hknows
        refine ⟨⟨v, List.mem_cons_of_mem _ hv, hheld⟩, fun m' hm' heq => ?_⟩
        -- The object has a version that reconcile cannot hold.
        rw [ho.version m' hm', hheld] at heq
        cases heq
        exact absurd hv hversion
    | fetching => trivial
    | removing read =>
        obtain ⟨huid, hread⟩ := hknows
        refine ⟨huid, fun m' hm' heq hdeleting => ?_⟩
        rw [ho.uid m' hm'] at heq
        obtain ⟨hm_deleting, hsub⟩ := hread m hm heq hdeleting
        obtain ⟨hm'_deleting, hsub'⟩ := ho.deleting m' hm' hm_deleting
        exact ⟨hm'_deleting, fun f hf => hsub f (hsub' f hf)⟩

theorem rewrites_stored {m : ObjectMeta} {l : List String}
    (hlist : m.deletionTimestamp.isSome = true →
      ∀ f ∈ l, f ∈ finalizersOf (some m)) (version : String) :
    Rewrites m version (stored m l version) := by
  have hsome : ∀ m', stored m l version = some m' →
      m' = { m with
        finalizers := if l = [] then none else some l
        resourceVersion := some version } := by
    intro m' hm'
    unfold stored at hm'
    split at hm'
    · cases hm'
    · exact (Option.some.inj hm').symm
  constructor
  · intro m' hm'
    rw [hsome m' hm']
  · intro m' hm'
    rw [hsome m' hm']
  · intro m' hm'
    rw [hsome m' hm']
    dsimp only
    split
    · simp
    · next h => exact fun heq => h (Option.some.inj heq)
  · intro m' hm' hdeleting
    constructor
    · rw [hsome m' hm']
      exact hdeleting
    · rw [← hm', finalizersOf_stored]
      exact hlist hdeleting

/-- A delete of an object with finalizers leaves the list. -/
theorem rewrites_of_delete (m : ObjectMeta) (now : DateTime)
    (version : String) :
    Rewrites m version (stored
      { m with deletionTimestamp := m.deletionTimestamp <|> some now }
      (m.finalizers.getD []) version) := by
  have hdeleting : (m.deletionTimestamp <|> some now).isSome = true := by
    cases m.deletionTimestamp <;> rfl
  have h := rewrites_stored
    (m := { m with deletionTimestamp := m.deletionTimestamp <|> some now })
    (l := m.finalizers.getD []) (fun _ f hf => hf) version
  exact ⟨h.uid, h.version, h.normal, fun m' hm' _ =>
    h.deleting m' hm' hdeleting⟩

theorem rewrites_of_writeFinalizers {m : ObjectMeta} {l : List String}
    {version : String} {o : Option ObjectMeta}
    (h : writeFinalizers m l version = some o) :
    Rewrites m version o ∧ finalizersOf o = l ∧
      deletionAllows m l = true := by
  unfold writeFinalizers at h
  split at h
  · next hallowed =>
      cases h
      exact ⟨rewrites_stored (mem_of_deletionAllows hallowed) version,
        finalizersOf_stored m l version, hallowed⟩
  · cases h

theorem finalizerInv_patch (hinv : FinalizerInv s) {version : String}
    (hversion : version ∉ s.versions) (p : FinalizerPatch) :
    FinalizerInv (s.patch p version) := by
  unfold FinalizerState.patch
  split
  · exact hinv
  · next m hm =>
      split
      · exact hinv
      · next o ho =>
          obtain ⟨l, _, hwrite⟩ := Option.bind_eq_some_iff.mp ho
          exact finalizerInv_put hinv hm hversion
            (rewrites_of_writeFinalizers hwrite).1

theorem finalizerInv_act (hinv : FinalizerInv s) {i : Nat}
    {version : String} {p : Pending} (hp : s.pending[i]? = some p)
    (hversion : version ∉ s.versions) :
    FinalizerInv (actPending s i version p) := by
  have hfinish := finalizerInv_finish hinv i
  unfold actPending
  split
  · split
    · exact finalizerInv_patch hfinish hversion _
    · exact hfinish
  · split
    · exact hfinish
    · next m hm =>
        refine ⟨hinv.version, hinv.uid, hinv.normal, fun q hq => ?_⟩
        rcases List.mem_or_eq_of_mem_set hq with hq | rfl
        · exact hinv.knows q hq
        · refine ⟨hinv.uid m hm, fun m' hm' _ hdeleting => ?_⟩
          have hsame : m' = m :=
            Option.some.inj (hm'.symm.trans hm)
          rw [hsame]
          exact ⟨hdeleting, fun f hf => hf⟩
  · split
    · exact finalizerInv_patch hfinish hversion _
    · exact hfinish

/-- An object nobody has seen yet. -/
theorem finalizerInv_create (hinv : FinalizerInv s) {m : ObjectMeta}
    {uid version : String} (huid : uid ∉ s.uids)
    (hversion : version ∉ s.versions)
    (hmuid : m.uid = some uid) (hmversion : m.resourceVersion = some version)
    (hnormal : m.finalizers ≠ some []) :
    FinalizerInv
      { s with
        object := some m, versions := version :: s.versions
        uids := uid :: s.uids } := by
  refine ⟨fun m' hm' => ?_, fun m' hm' => ?_, fun m' hm' => ?_,
    fun p hp => ?_⟩
  · cases hm'
    exact ⟨version, List.mem_cons_self, hmversion⟩
  · cases hm'
    exact ⟨uid, List.mem_cons_self, hmuid⟩
  · cases hm'
    exact hnormal
  · have hknows := hinv.knows p hp
    cases p with
    | ensuring held =>
        obtain ⟨⟨v, hv, hheld⟩, _⟩ := hknows
        refine ⟨⟨v, List.mem_cons_of_mem _ hv, hheld⟩, fun m' hm' heq => ?_⟩
        cases hm'
        rw [hmversion, hheld] at heq
        cases heq
        exact absurd hv hversion
    | fetching => trivial
    | removing read =>
        obtain ⟨⟨u, hu, hread⟩, _⟩ := hknows
        refine ⟨⟨u, List.mem_cons_of_mem _ hu, hread⟩, fun m' hm' heq _ => ?_⟩
        cases hm'
        rw [hmuid, hread] at heq
        cases heq
        exact absurd hu huid

theorem finalizerInv_step (hinv : FinalizerInv s) {e : FinalizerEvent}
    (h : finalizerStep name s e = some s') : FinalizerInv s' := by
  cases e with
  | create uid version l =>
      dsimp only [finalizerStep] at h
      split at h
      · next hfresh =>
          obtain ⟨_, huid, hversion⟩ := hfresh
          cases h
          refine finalizerInv_create hinv huid hversion rfl rfl ?_
          dsimp only
          split
          · simp
          · next hl => exact fun heq => hl (Option.some.inj heq)
      · cases h
  | delete now version =>
      dsimp only [finalizerStep] at h
      split at h
      · cases h
      · next hversion =>
          obtain ⟨m, hm, rfl⟩ := Option.map_eq_some_iff.mp h
          exact finalizerInv_put hinv hm hversion
            (rewrites_of_delete m now version)
  | write l version =>
      dsimp only [finalizerStep] at h
      split at h
      · cases h
      · next hversion =>
          obtain ⟨m, hm, h⟩ := Option.bind_eq_some_iff.mp h
          obtain ⟨o, ho, rfl⟩ := Option.map_eq_some_iff.mp h
          exact finalizerInv_put hinv hm hversion
            (rewrites_of_writeFinalizers ho).1
  | reconcile =>
      obtain ⟨m, hm, rfl⟩ := Option.map_eq_some_iff.mp h
      refine ⟨hinv.version, hinv.uid, hinv.normal, fun p hp => ?_⟩
      rcases List.mem_append.mp hp with hp | hp
      · exact hinv.knows p hp
      · obtain rfl := List.mem_singleton.mp hp
        split
        · trivial
        · refine ⟨hinv.version m hm, fun m' hm' _ => ?_⟩
          exact Option.some.inj (hm'.symm.trans hm)
  | act i version =>
      dsimp only [finalizerStep] at h
      split at h
      · cases h
      · next hversion =>
          obtain ⟨p, hp, rfl⟩ := Option.map_eq_some_iff.mp h
          exact finalizerInv_act hinv hp hversion

theorem finalizerInv_reachable {ok : FinalizerState → FinalizerEvent → Prop}
    (h : Reachable (finalizers name) ok s) : FinalizerInv s := by
  refine Reachable.invariant ?_ ?_ h
  · exact fun s => finalizerInv_start
  · exact fun s e s' hinv _ => finalizerInv_step hinv

/-! ## What a request does to the list -/

/-- Every finalizer but the operator's is there afterwards if and only if it
was there before. -/
def KeepsOthers (o o' : Option ObjectMeta) : Prop :=
  ∀ f, f ≠ operatorFinalizer → (f ∈ finalizersOf o' ↔ f ∈ finalizersOf o)

/-- What a request of the operator, the next one of `p`, may do. -/
structure ComposesAt (s s' : FinalizerState) (p : Pending) : Prop where
  others : KeepsOthers s.object s'.object
  once : ∀ held, p = .ensuring held → s'.object ≠ s.object →
    (finalizersOf s'.object).count operatorFinalizer = 1
  kept : ∀ read, p = .removing read → ∀ m, s.object = some m →
    m.deletionTimestamp = none →
      operatorFinalizer ∈ finalizersOf (some m) →
        operatorFinalizer ∈ finalizersOf s'.object

/-- No request of the operator costs another controller its finalizer or
brings one back, stores the operator's a second time, or strips it from an
object that is not being deleted. -/
def Composes (s : FinalizerState) (e : FinalizerEvent)
    (s' : FinalizerState) : Prop :=
  ∀ i version p, e = .act i version → s.pending[i]? = some p →
    ComposesAt s s' p

theorem composesAt_refl {o : FinalizerState} {p : Pending}
    (h : o.object = s.object) : ComposesAt s o p where
  others := by
    rw [h]
    exact fun f _ => Iff.rfl
  once := fun _ _ hne => absurd h hne
  kept := by
    intro _ _ m hm _ hmem
    rwa [h, hm]

/-- What the patch of `ensure_finalizer` makes of a stored list. -/
theorem newList_of_ensureRequest {held m : ObjectMeta} {f : String}
    {p : FinalizerPatch} {l : List String}
    (h : ensureRequest held f = .ok (some p)) (hl : p.newList m = some l) :
    f ∉ finalizersOf (some held) ∧ m.resourceVersion = held.resourceVersion ∧
      (m = held → l = finalizersOf (some held) ++ [f]) := by
  unfold ensureRequest at h
  split at h
  · cases h
  · next habsent =>
      refine ⟨fun hf => habsent (hasFinalizer_iff.mpr hf), ?_⟩
      split at h
      · cases h
      · next version hversion =>
          rw [hversion]
          split at h
          · next hsome =>
              cases h
              dsimp only [FinalizerPatch.newList] at hl
              split at hl
              · next hmatch =>
                  refine ⟨hmatch, ?_⟩
                  rintro rfl
                  obtain ⟨fs, hfs, rfl⟩ := Option.map_eq_some_iff.mp hl
                  rw [finalizersOf_some, hfs]
                  rfl
              · cases hl
          · next hnone =>
              cases h
              dsimp only [FinalizerPatch.newList] at hl
              split at hl
              · next hmatch =>
                  cases hl
                  refine ⟨hmatch, fun _ => ?_⟩
                  rw [Option.not_isSome_iff_eq_none] at hnone
                  rw [finalizersOf_some, hnone]
                  rfl
              · cases hl

/-- A patch is refused, or writes the list it makes. -/
theorem patch_cases (s : FinalizerState) (p : FinalizerPatch)
    (version : String) :
    s.patch p version = s ∨
      ∃ m l, s.object = some m ∧ p.newList m = some l ∧
        deletionAllows m l = true ∧
          finalizersOf (s.patch p version).object = l := by
  unfold FinalizerState.patch
  split
  · exact .inl rfl
  · next m hm =>
      split
      · exact .inl rfl
      · next o ho =>
          obtain ⟨l, hl, hwrite⟩ := Option.bind_eq_some_iff.mp ho
          obtain ⟨_, hlist, hallowed⟩ := rewrites_of_writeFinalizers hwrite
          exact .inr ⟨m, l, hm, hl, hallowed, hlist⟩

/-- The patch of `ensure_finalizer` meets the object it was made for. -/
theorem composesAt_ensure (hinv : FinalizerInv s) {i : Nat}
    {version : String} {held : ObjectMeta} {p : FinalizerPatch}
    (hp : s.pending[i]? = some (.ensuring held))
    (hrequest : ensureRequest held operatorFinalizer = .ok (some p)) :
    ComposesAt s ((s.finish i).patch p version) (.ensuring held) := by
  rcases patch_cases (s.finish i) p version with hrefused | hwritten
  · rw [hrefused]
    exact composesAt_refl rfl
  · obtain ⟨m, l, hm, hl, _, hlist⟩ := hwritten
    obtain ⟨habsent, hversion, hnew⟩ := newList_of_ensureRequest hrequest hl
    have hknows := hinv.knows _ (List.mem_of_getElem? hp)
    have hsame : m = held := hknows.2 m hm hversion
    have hobject : s.object = some held := by rw [← hsame]; exact hm
    rw [hnew hsame] at hlist
    refine ⟨fun f hf => ?_, fun _ _ _ => ?_, fun read h => ?_⟩
    · rw [hlist, hobject, List.mem_append, List.mem_singleton]
      exact or_iff_left hf
    · rw [hlist, List.count_append, List.count_eq_zero_of_not_mem habsent]
      simp
    · cases h

/-! ## When the list that was read may be written back -/

/-- Whenever the list goes out and is let through, the finalizers of others
that are stored are those that were read, and the object is being deleted
unless the operator's finalizer is not on it. -/
def Harmless (s : FinalizerState) (read : ObjectMeta) : Prop :=
  ∀ m, s.object = some m → removeRequest read operatorFinalizer ≠ none →
    deletionAllows m (withoutFinalizer read operatorFinalizer) = true →
      (∀ f, f ≠ operatorFinalizer →
        (f ∈ finalizersOf (some m) ↔ f ∈ finalizersOf (some read))) ∧
      (m.deletionTimestamp.isSome = true ∨
        operatorFinalizer ∉ finalizersOf (some m))

theorem finalizersOf_patch {m : ObjectMeta} {p : FinalizerPatch}
    {l : List String} (version : String) (hm : s.object = some m)
    (hl : p.newList m = some l) (hallowed : deletionAllows m l = true) :
    finalizersOf (s.patch p version).object = l := by
  unfold FinalizerState.patch
  rw [hm]
  dsimp only
  rw [hl, Option.bind_some, writeFinalizers, if_pos hallowed]
  exact finalizersOf_stored m l version

theorem composesAt_remove_iff {i : Nat} {version : String}
    {read : ObjectMeta} :
    ComposesAt s (actPending s i version (.removing read))
      (.removing read) ↔ Harmless s read := by
  cases hrequest : removeRequest read operatorFinalizer with
  | none =>
      simp only [actPending, hrequest]
      exact iff_of_true (composesAt_refl rfl)
        fun _ _ hsent => absurd hrequest hsent
  | some p =>
      obtain rfl := removeRequest_eq_some hrequest
      simp only [actPending, hrequest]
      constructor
      · intro hcomposes m hm _ hallowed
        have hlist := finalizersOf_patch (s := s.finish i) version hm
          (p := .merge (withoutFinalizer read operatorFinalizer)) rfl hallowed
        constructor
        · intro f hf
          have hothers := hcomposes.others f hf
          rw [hlist, hm, mem_withoutFinalizer] at hothers
          rw [← hothers]
          exact and_iff_left hf
        · by_contra hstripped
          rw [not_or, Option.not_isSome_iff_eq_none, not_not] at hstripped
          have hmem := hcomposes.kept read rfl m hm hstripped.1 hstripped.2
          rw [hlist, mem_withoutFinalizer] at hmem
          exact hmem.2 rfl
      · intro hharmless
        rcases patch_cases (s.finish i)
            (.merge (withoutFinalizer read operatorFinalizer)) version
          with hrefused | ⟨m, l, hm, hl, hallowed, hlist⟩
        · rw [hrefused]
          exact composesAt_refl rfl
        · cases hl
          have hobject : s.object = some m := hm
          obtain ⟨hothers, hkept⟩ :=
            hharmless m hobject (by rw [hrequest]; simp) hallowed
          refine ⟨fun f hf => ?_, fun held h => ?_, fun _ _ m' hm' hlive hmem =>
            ?_⟩
          · rw [hlist, hobject, mem_withoutFinalizer, hothers f hf]
            exact and_iff_left hf
          · cases h
          · rw [hobject] at hm'
            cases hm'
            rw [hlive] at hkept
            exact absurd hmem (hkept.resolve_left (by simp))

/-! ## Every run -/

/-- The condition on a step: what `remove_finalizer` has read may be written
back. -/
def harmless (s : FinalizerState) (e : FinalizerEvent) : Prop :=
  ∀ i version read, e = .act i version →
    s.pending[i]? = some (.removing read) → Harmless s read

/-- The object under the name is the one that was read, and was being
deleted then. -/
def onSameObject (s : FinalizerState) (e : FinalizerEvent) : Prop :=
  ∀ i version read, e = .act i version →
    s.pending[i]? = some (.removing read) → ∀ m, s.object = some m →
      m.uid = read.uid ∧ read.deletionTimestamp.isSome = true

/-- While one object is being deleted, a list that is let through is the one
that is stored. -/
theorem harmless_of_onSameObject (hinv : FinalizerInv s)
    {e : FinalizerEvent} (h : onSameObject s e) : harmless s e := by
  rintro i version read rfl hp m hm _ hallowed
  obtain ⟨huid, hread⟩ := h i version read rfl hp m hm
  have hknows := hinv.knows _ (List.mem_of_getElem? hp)
  obtain ⟨hdeleting, hsub⟩ := hknows.2 m hm huid hread
  refine ⟨fun f hf => ⟨hsub f, fun hmem => ?_⟩, .inl hdeleting⟩
  exact mem_of_deletionAllows hallowed hdeleting f
    (mem_withoutFinalizer.mpr ⟨hmem, hf⟩)

theorem composesAt_actPending_iff (hinv : FinalizerInv s) {i : Nat}
    {version : String} {p : Pending} (hp : s.pending[i]? = some p) :
    ComposesAt s (actPending s i version p) p ↔
      ∀ read, p = .removing read → Harmless s read := by
  cases p with
  | ensuring held =>
      refine iff_of_true ?_ fun read h => Pending.noConfusion h
      dsimp only [actPending]
      split
      · next hrequest => exact composesAt_ensure hinv hp hrequest
      · exact composesAt_refl rfl
  | fetching =>
      refine iff_of_true (composesAt_refl ?_) fun read h =>
        Pending.noConfusion h
      dsimp only [actPending]
      split <;> rfl
  | removing read =>
      rw [composesAt_remove_iff]
      constructor
      · intro h read' hread
        cases hread
        exact h
      · exact fun h => h read rfl

theorem composes_of_not_act {e : FinalizerEvent}
    (h : ∀ i version, e ≠ .act i version) :
    Composes s e s' ↔ harmless s e :=
  iff_of_true (fun i version _ he => absurd he (h i version))
    fun i version _ he => absurd he (h i version)

theorem composes_iff_harmless (hinv : FinalizerInv s) {e : FinalizerEvent}
    (h : finalizerStep name s e = some s') :
    Composes s e s' ↔ harmless s e := by
  cases e with
  | act i version =>
      dsimp only [finalizerStep] at h
      split at h
      · cases h
      · obtain ⟨p, hp, rfl⟩ := Option.map_eq_some_iff.mp h
        have hat : ComposesAt s (actPending s i version p) p ↔
            ∀ read, p = .removing read → Harmless s read :=
          composesAt_actPending_iff hinv hp
        constructor
        · rintro hcomposes j w read ⟨rfl, rfl⟩ hread
          rw [hp] at hread
          cases hread
          exact hat.mp (hcomposes i version _ rfl hp) read rfl
        · rintro hharmless j w q ⟨rfl, rfl⟩ hq
          rw [hp] at hq
          cases hq
          refine hat.mpr fun read hread => ?_
          subst hread
          exact hharmless i version read rfl hp
  | create uid version l => exact composes_of_not_act (by simp)
  | delete now version => exact composes_of_not_act (by simp)
  | write l version => exact composes_of_not_act (by simp)
  | reconcile => exact composes_of_not_act (by simp)

/-- After any run, a request of the operator composes with the other writers
if and only if the list it may be writing back is harmless; and it is whenever
the object under the name is the one that was read and was being deleted
then. -/
theorem composes_iff (name : String) :
    (∀ s s' e, Reachable (finalizers name) anyStep s →
      finalizerStep name s e = some s' → onSameObject s e →
        Composes s e s') ∧
    ∀ s s' e, Reachable (finalizers name) anyStep s →
      finalizerStep name s e = some s' →
        (Composes s e s' ↔ harmless s e) :=
  ⟨fun _ _ _ hs h hsame =>
      have hinv := finalizerInv_reachable hs
      (composes_iff_harmless hinv h).mpr (harmless_of_onSameObject hinv hsame),
    fun _ _ _ hs h => composes_iff_harmless (finalizerInv_reachable hs) h⟩

/-! ## Another object of that name -/

def noObject : FinalizerState :=
  { object := none, pending := [], versions := [], uids := [] }

theorem start_noObject : FinalizerStart noObject where
  object := by
    intro m hm
    cases hm
  pending := rfl

/-- An object with the operator's finalizer and another controller's is
deleted, and one reconcile has read it. -/
def oneRelease : List FinalizerEvent :=
  [.create "u1" "1" [operatorFinalizer, "backup"], .delete 5 "2",
    .reconcile, .act 0 "3"]

/-- What it has read. -/
def doomed : ObjectMeta :=
  { name := some "edge", uid := some "u1", resourceVersion := some "2"
    deletionTimestamp := some 5
    finalizers := some [operatorFinalizer, "backup"] }

theorem run_oneRelease :
    ∃ s s', (finalizers "edge").run noObject oneRelease = some s ∧
      finalizerStep "edge" s (.act 0 "4") = some s' ∧
      s.object = some doomed ∧ s.pending = [.removing doomed] ∧
      finalizersOf s'.object = ["backup"] :=
  ⟨_, _, rfl, rfl, rfl, rfl, rfl⟩

theorem composes_oneRelease :
    ∃ s s', finalizerStep "edge" s (.act 0 "4") = some s' ∧
      finalizersOf s'.object = ["backup"] ∧ Composes s (.act 0 "4") s' := by
  obtain ⟨s, s', hrun, hstep, hobject, hpending, hlist⟩ := run_oneRelease
  have hreach : Reachable (finalizers "edge") anyStep s :=
    .of_run (.init start_noObject) (System.permitted_anyStep ..) hrun
  refine ⟨s, s', hstep, hlist,
    (composes_iff "edge").1 s s' _ hreach hstep ?_⟩
  rintro i version read ⟨rfl, rfl⟩ hread m hm
  rw [hpending] at hread
  cases hread
  rw [hobject] at hm
  cases hm
  exact ⟨rfl, rfl⟩

/-- Two reconciles of a deleted object read it; the first releases it, and an
object of that name is created again. -/
def lateRelease : List FinalizerEvent :=
  [.create "u1" "1" [operatorFinalizer], .delete 5 "2", .reconcile,
    .reconcile, .act 0 "3", .act 1 "4", .act 0 "5",
    .create "u2" "6" [operatorFinalizer, "backup"]]

/-- The second clears the list of the new object. -/
theorem run_lateRelease :
    ∃ s s' read, (finalizers "edge").run noObject lateRelease = some s ∧
      finalizerStep "edge" s (.act 0 "7") = some s' ∧
      s.pending[0]? = some (.removing read) ∧
      finalizersOf s.object = [operatorFinalizer, "backup"] ∧
      finalizersOf s'.object = [] :=
  ⟨_, _, _, rfl, rfl, rfl, rfl, rfl⟩

theorem not_composes_lateRelease :
    ¬ ∀ (name : String) (s s' : FinalizerState) (e : FinalizerEvent),
      Reachable (finalizers name) anyStep s →
      finalizerStep name s e = some s' → Composes s e s' := by
  intro h
  obtain ⟨s, s', read, hrun, hstep, hpending, hbefore, hafter⟩ :=
    run_lateRelease
  have hreach : Reachable (finalizers "edge") anyStep s :=
    .of_run (.init start_noObject) (System.permitted_anyStep ..) hrun
  have hcomposes := h "edge" s s' (.act 0 "7") hreach hstep 0 "7" _ rfl
    hpending
  have hothers := hcomposes.others "backup" (by decide)
  rw [hbefore, hafter] at hothers
  exact List.not_mem_nil (hothers.mpr (by decide))

end McpgOperator.Kube
