import McpgOperator.Kube.Trigger
import Mathlib.Logic.Function.Basic
import Mathlib.Tactic.Common

/-!
# No edit and no deletion goes unseen

The filter drops the events of the operator's own status writes, and what it
drops must not be an edit. Nothing is lost with it: not where the watch skips
versions, not where the filter has forgotten the object or remembers another of
the same name, and not where an event comes in while a pass runs. An edit would
be lost where its hash is that of the version before it, and where a run that
begins in the middle of a list reads the store as it was.

The invariant says that the last version to come to the filter is covered: the
last pass to begin has seen its spec and its deletion mark, or one more pass is
due. What carries it over a dropped event is that the value the filter keeps
for a uid is that of this version, and that two versions of one uid and one
generation have one spec.
-/

namespace McpgOperator.Kube.Trigger

open Transition

variable {Spec : Type}

/-! ## The order of the events -/

def Sight.version : Sight Spec → Version Spec
  | .applied v | .deleted v => v

/-- The place of an event among those of its name: a deletion follows the
versions of its uid. -/
def Sight.rank : Sight Spec → Nat
  | .applied v => 2 * v.uid
  | .deleted v => 2 * v.uid + 1

/-- The generation counts the specs of one uid. -/
structure Counted (v w : Version Spec) : Prop where
  isSome : v.generation.isSome = w.generation.isSome
  mono : ∀ g g', v.generation = some g → w.generation = some g' → g ≤ g'
  spec : v.generation = w.generation → v.generation.isSome = true →
    v.spec = w.spec

/-- One event may come before the other. -/
structure Before (a b : Sight Spec) : Prop where
  rank : a.rank ≤ b.rank
  counted : a.version.uid = b.version.uid → Counted a.version b.version

theorem Counted.refl (v : Version Spec) : Counted v v where
  isSome := rfl
  mono g g' hg hg' := by
    rw [hg] at hg'
    exact Int.le_of_eq (Option.some.inj hg')
  spec _ _ := rfl

theorem Counted.trans {u v w : Version Spec} (huv : Counted u v)
    (hvw : Counted v w) : Counted u w where
  isSome := huv.isSome.trans hvw.isSome
  mono g g' hg hg' := by
    have hsome : v.generation.isSome = true := by
      rw [← huv.isSome, hg]
      rfl
    obtain ⟨m, hm⟩ := Option.isSome_iff_exists.mp hsome
    exact Int.le_trans (huv.mono g m hg hm) (hvw.mono m g' hm hg')
  spec heq hsome := by
    obtain ⟨g, hg⟩ := Option.isSome_iff_exists.mp hsome
    have hv : v.generation.isSome = true := huv.isSome ▸ hsome
    obtain ⟨m, hm⟩ := Option.isSome_iff_exists.mp hv
    -- the generation in between is caught between the two
    have hlow := huv.mono g m hg hm
    have hhigh := hvw.mono m g hm (heq ▸ hg)
    have hmg : m = g := Int.le_antisymm hhigh hlow
    have huveq : u.generation = v.generation := by rw [hg, hm, hmg]
    exact (huv.spec huveq hsome).trans (hvw.spec (huveq ▸ heq) hv)

theorem uid_eq_of_rank {a b c : Sight Spec} (hab : a.rank ≤ b.rank)
    (hbc : b.rank ≤ c.rank) (heq : a.version.uid = c.version.uid) :
    a.version.uid = b.version.uid ∧ b.version.uid = c.version.uid := by
  cases a <;> cases b <;> cases c <;>
    simp only [Sight.rank, Sight.version] at * <;> omega

theorem Before.refl (e : Sight Spec) : Before e e :=
  ⟨Nat.le_refl _, fun _ => Counted.refl _⟩

theorem Before.trans {a b c : Sight Spec} (hab : Before a b)
    (hbc : Before b c) : Before a c := by
  refine ⟨Nat.le_trans hab.rank hbc.rank, fun heq => ?_⟩
  obtain ⟨hfirst, hsecond⟩ := uid_eq_of_rank hab.rank hbc.rank heq
  exact (hab.counted hfirst).trans (hbc.counted hsecond)

/-! ## The invariant -/

/-- A pass over `w` has seen what there is to see in `v`. -/
structure Covers (w v : Version Spec) : Prop where
  uid : w.uid = v.uid
  spec : w.spec = v.spec
  deleting : w.deleting = v.deleting

section Runs

variable {rt : Runtime Spec} {hash : Int × Bool → UInt64} {s s' : State rt}

/-- The events from the last that came to the filter on. -/
def State.line (s : State rt) : List (Sight Spec) :=
  s.front.toList ++ s.backlog

/-- The pass that runs, or else the last one. -/
def State.latest (s : State rt) : Option (Version Spec) :=
  s.running.or s.seen

structure Inv (hash : Int × Bool → UInt64) (s : State rt) : Prop where
  line : s.line.Pairwise Before
  last : s.line.getLast? = s.current
  kept : ∀ uid x, rt.kept s.cache uid = some x →
    ∃ e, s.front = some e ∧ 2 * uid ≤ e.rank ∧
      ∀ v, e = .applied v → v.uid = uid → v.value hash = some x
  stored : s.listing = false → rt.get s.store = s.front.bind Sight.object
  covered : ∀ v, s.front = some (.applied v) →
    rt.due s.queue = true ∨ ∃ w, s.latest = some w ∧ Covers w v

theorem inv_start (laws : rt.Laws) : Inv hash (start rt) where
  line := List.Pairwise.nil
  last := rfl
  kept uid _ h := by
    rw [start, laws.kept_noValues uid] at h
    cases h
  stored _ := laws.get_noObject
  covered _ h := by cases h

/-- What a line ends with comes after all of it. -/
theorem before_last {es : List (Sight Spec)} {e : Sight Spec}
    (h : es.Pairwise Before) (hlast : es.getLast? = some e) :
    ∀ a ∈ es, Before a e := by
  obtain ⟨before, rfl⟩ := List.getLast?_eq_some_iff.mp hlast
  intro a ha
  rcases List.mem_append.mp ha with ha | ha
  · exact (List.pairwise_append.mp h).2.2 a ha e List.mem_cons_self
  · rw [List.mem_singleton.mp ha]
    exact Before.refl e

/-! ## Writes -/

/-- A write that follows the current version. -/
theorem inv_write {e : Sight Spec} (h : Inv hash s)
    (hnext : ∀ c, s.current = some c → Before c e) :
    Inv hash (s.write e) := by
  have hline : (s.write e).line = s.line ++ [e] :=
    (List.append_assoc ..).symm
  refine { h with line := ?_, last := ?_ }
  · rw [hline, List.pairwise_append]
    refine ⟨h.line, List.pairwise_singleton .., fun a ha b hb => ?_⟩
    rw [List.mem_singleton.mp hb]
    cases hcurrent : s.current with
    | none =>
        rw [List.getLast?_eq_none_iff.mp (h.last.trans hcurrent)] at ha
        cases ha
    | some c =>
        exact (before_last h.line (h.last.trans hcurrent) a ha).trans
          (hnext c hcurrent)
  · rw [hline, List.getLast?_concat]
    rfl

/-- The versions a write makes of one. -/
theorem before_of_edit {v w : Version Spec} {e : Sight Spec}
    (huid : w.uid = v.uid) (he : e = .applied w ∨ e = .deleted w)
    (h : w.generation = v.generation ∧ w.spec = v.spec ∨
      w.generation = v.generation.map (· + 1)) :
    Before (.applied v) e := by
  have hcounted : Counted v w := by
    constructor
    · rcases h with ⟨hgen, -⟩ | hgen <;> rw [hgen]
      exact Option.isSome_map.symm
    · intro g g' hg hg'
      rcases h with ⟨hgen, -⟩ | hgen <;> rw [hgen, hg] at hg' <;> cases hg'
      · exact Int.le_refl _
      · exact Int.le_add_one (Int.le_refl _)
    · intro heq hsome
      obtain ⟨g, hg⟩ := Option.isSome_iff_exists.mp hsome
      rcases h with ⟨-, hspec⟩ | hgen
      · exact hspec.symm
      · rw [hgen, hg] at heq
        have heq : g = g + 1 := Option.some.inj heq
        omega
  rcases he with rfl | rfl
  · exact ⟨by simp [Sight.rank, huid], fun _ => hcounted⟩
  · exact ⟨by simp [Sight.rank, huid], fun _ => hcounted⟩

theorem before_of_create {v : Version Spec} {uid : Nat} {e : Version Spec}
    (huid : e.uid = uid) (h : v.uid < uid) :
    Before (.deleted v) (.applied e) := by
  refine ⟨?_, fun heq => ?_⟩
  · simp only [Sight.rank, huid]
    omega
  · simp only [Sight.version, huid] at heq
    omega

/-! ## Events -/

theorem isSome_value {v : Version Spec} :
    (v.value hash).isSome = v.generation.isSome := Option.isSome_map

/-- The events that come in one after the other are of one spec and one
deletion mark, where they have one value that is no collision. -/
theorem covers_of_value_eq {w v : Version Spec}
    (hbefore : Before (.applied w) (.applied v)) (huid : w.uid = v.uid)
    (hvalue : w.value hash = v.value hash)
    (hsome : (v.value hash).isSome = true)
    (hapart : collides hash (some (.applied w)) (some (.applied v)) = false) :
    Covers w v := by
  have hsame : (w.generation, w.deleting) = (v.generation, v.deleting) := by
    simpa [collides, huid, hvalue, hsome] using hapart
  obtain ⟨hgen, hdeleting⟩ := Prod.mk.inj hsame
  refine ⟨huid, (hbefore.counted huid).spec hgen ?_, hdeleting⟩
  rw [Sight.version, hgen]
  exact isSome_value.symm.trans hsome

/-- What the filter drops has been seen as far as the last version that came
to it. -/
theorem covers_of_dropped (laws : rt.Laws) (h : Inv hash s) {now : Nat}
    {v : Version Spec}
    (hnext : ∀ e, s.front = some e → Before e (.applied v))
    (hapart : collides hash s.front (some (.applied v)) = false)
    (hdropped : (rt.poll now v.uid (v.value hash) s.cache).1 = false) :
    ∃ w, s.front = some (.applied w) ∧ Covers w v := by
  obtain ⟨hsome, hkept⟩ := laws.dropped now v.uid (v.value hash) s.cache
    hdropped
  obtain ⟨x, hx⟩ := Option.isSome_iff_exists.mp hsome
  obtain ⟨e, hfront, hrank, hsame⟩ := h.kept v.uid x (hkept.trans hx)
  have hbefore := hnext e hfront
  have hle := hbefore.rank
  cases e with
  | deleted w =>
      simp only [Sight.rank] at hle hrank
      omega
  | applied w =>
      simp only [Sight.rank] at hle hrank
      have huid : w.uid = v.uid := by omega
      have hvalue : w.value hash = v.value hash :=
        (hsame w rfl huid).trans hx.symm
      rw [hfront] at hapart
      exact ⟨w, hfront, covers_of_value_eq hbefore huid hvalue hsome hapart⟩

theorem Covers.trans {u v w : Version Spec} (huv : Covers u v)
    (hvw : Covers v w) : Covers u w :=
  ⟨huv.uid.trans hvw.uid, huv.spec.trans hvw.spec,
    huv.deleting.trans hvw.deleting⟩

/-- What is kept after a version is of that version. -/
theorem kept_of_poll (laws : rt.Laws) (h : Inv hash s) {now : Nat}
    {v : Version Spec}
    (hnext : ∀ e, s.front = some e → Before e (.applied v)) {uid : Nat}
    {x : UInt64}
    (hkept : rt.kept (rt.poll now v.uid (v.value hash) s.cache).2 uid =
      some x) :
    2 * uid ≤ 2 * v.uid ∧ (v.uid = uid → v.value hash = some x) := by
  have hpoll := laws.kept_poll _ _ _ _ _ _ hkept
  split at hpoll
  · next hnew => exact ⟨by omega, fun _ => hpoll⟩
  · next hold =>
      obtain ⟨e, hfront, hrank, hsame⟩ := h.kept uid x hpoll
      have hbefore := hnext e hfront
      refine ⟨Nat.le_trans hrank hbefore.rank, fun huid => ?_⟩
      -- a uid that has had a value has one in every version
      refine absurd ⟨huid.symm, ?_⟩ hold
      have hle := hbefore.rank
      cases e with
      | deleted w =>
          simp only [Sight.rank] at hle hrank
          omega
      | applied w =>
          simp only [Sight.rank] at hle hrank
          have hwuid : w.uid = v.uid := by omega
          have hsome := (hbefore.counted hwuid).isSome
          rw [Sight.version, Sight.version] at hsome
          have hvalue : (w.value hash).isSome = w.generation.isSome :=
            isSome_value
          rw [isSome_value, ← hsome, ← hvalue, hsame w rfl (hwuid.trans huid)]
          rfl

/-- An event comes to the filter, and the store is as far, unless the list it
is from goes on. -/
theorem inv_receive (laws : rt.Laws) {now : Nat} {e : Sight Spec}
    {backlog : List (Sight Spec)} {listing : Bool} {store : rt.Store}
    (h : Inv hash s) (hnext : ∀ a, s.front = some a → Before a e)
    (hapart : collides hash s.front (some e) = false)
    (hline : (e :: backlog).Pairwise Before)
    (hlast : (e :: backlog).getLast? = s.current)
    (hstore : listing = false → rt.get store = e.object) :
    Inv hash (State.receive hash
      { s with backlog := backlog, listing := listing, store := store }
      now e) := by
  cases e with
  | deleted v =>
      refine ⟨hline, hlast, fun uid x hkept => ?_, hstore, fun w hw => ?_⟩
      · obtain ⟨e, hfront, hrank, -⟩ := h.kept uid x hkept
        refine ⟨.deleted v, rfl, ?_, fun w hw => ?_⟩
        · exact Nat.le_trans hrank (hnext e hfront).rank
        · cases hw
      · cases hw
  | applied v =>
      refine ⟨hline, hlast, fun uid x hkept => ?_, hstore, fun w hw => ?_⟩
      · obtain ⟨hle, hsame⟩ := kept_of_poll laws h hnext hkept
        refine ⟨.applied v, rfl, hle, fun w hw => ?_⟩
        cases hw
        exact hsame
      · cases hw
        unfold State.receive
        dsimp only
        cases hpasses : (rt.poll now v.uid (v.value hash) s.cache).1 with
        | true =>
            rw [if_pos rfl]
            exact .inl (laws.due_request s.queue)
        | false =>
            rw [if_neg Bool.false_ne_true]
            obtain ⟨w, hfront, hcovers⟩ :=
              covers_of_dropped laws h hnext hapart hpasses
            rcases h.covered w hfront with hdue | ⟨u, hlatest, hu⟩
            · exact .inl hdue
            · exact .inr ⟨u, hlatest, hu.trans hcovers⟩

/-! ## Steps -/

/-- What follows the current version comes after the last at the filter. -/
theorem before_current (h : Inv hash s) {c : Sight Spec}
    (hcurrent : s.current = some c) {a : Sight Spec}
    (hfront : s.front = some a) : Before a c := by
  refine before_last h.line (h.last.trans hcurrent) a ?_
  rw [State.line, hfront]
  exact List.mem_cons_self

theorem inv_deliver (laws : rt.Laws) (h : Inv hash s) {now : Nat}
    (hok : Orderly hash s (.deliver now))
    (hstep : s.step hash (.deliver now) = some s') : Inv hash s' := by
  simp only [State.step] at hstep
  split at hstep
  · cases hstep
  · next e rest hbacklog =>
      split at hstep
      · cases hstep
      · cases hstep
        have hline : s.line = s.front.toList ++ e :: rest := by
          rw [State.line, hbacklog]
        have hpairwise := h.line
        rw [hline, List.pairwise_append] at hpairwise
        obtain ⟨-, hrest, hfront⟩ := hpairwise
        have hapart : collides hash s.front (some e) = false := by
          rw [Orderly, hbacklog] at hok
          exact hok
        refine inv_receive laws h (fun a ha => ?_) hapart hrest ?_
          fun _ => laws.get_tell _ _
        · exact hfront a (by rw [ha]; exact List.mem_cons_self) e
            List.mem_cons_self
        · have hlast := h.last
          rw [hline, List.getLast?_append] at hlast
          rw [← hlast, List.getLast?_cons]
          rfl

theorem inv_list (laws : rt.Laws) (h : Inv hash s) {now : Nat}
    (hok : Orderly hash s (.list now))
    (hstep : s.step hash (.list now) = some s') : Inv hash s' := by
  simp only [State.step] at hstep
  split at hstep
  · cases hstep
  · next e hcurrent =>
      cases hstep
      have hapart : collides hash s.front (some e) = false := by
        rw [Orderly, hcurrent] at hok
        exact hok
      refine inv_receive laws h (fun a ha => before_current h hcurrent ha)
        hapart (List.pairwise_singleton ..) hcurrent.symm fun hlists => ?_
      cases hlists

/-- The pass that begins sees the last version that came to the filter. -/
theorem inv_begin (h : Inv hash s) (hok : Orderly hash s .begin)
    (hstep : s.step hash .begin = some s') : Inv hash s' := by
  have hstored := h.stored hok
  simp only [State.step] at hstep
  split at hstep
  · split at hstep
    · next v hget =>
        cases hstep
        refine { h with covered := fun w hw => .inr ⟨v, rfl, ?_⟩ }
        rw [hget, hw] at hstored
        cases hstored
        exact ⟨rfl, rfl, rfl⟩
    · next hget =>
        cases hstep
        refine { h with covered := fun w hw => ?_ }
        rw [hget, hw] at hstored
        cases hstored
  · cases hstep

theorem inv_finish (laws : rt.Laws) (h : Inv hash s) {v : Version Spec}
    (hrunning : s.running = some v) :
    Inv hash
      { s with
        queue := rt.finish s.queue, running := none, seen := some v } := by
  refine { h with covered := fun w hw => ?_ }
  rcases h.covered w hw with hdue | ⟨u, hlatest, hcovers⟩
  · exact .inl (laws.due_finish s.queue hdue)
  · rw [State.latest, hrunning] at hlatest
    exact .inr ⟨u, hlatest, hcovers⟩

theorem inv_step (laws : rt.Laws) {e : Event Spec} (h : Inv hash s)
    (hok : Orderly hash s e) (hstep : s.step hash e = some s') :
    Inv hash s' := by
  cases e with
  | create uid generation spec =>
      simp only [State.step] at hstep
      split at hstep
      · next hfresh =>
          cases hstep
          refine inv_write h fun c hc => ?_
          rw [State.fresh, hc] at hfresh
          cases c with
          | applied v => cases hfresh
          | deleted v => exact before_of_create rfl (of_decide_eq_true hfresh)
      · cases hstep
  | editSpec spec =>
      simp only [State.step] at hstep
      split at hstep
      · next v hcurrent =>
          cases hstep
          refine inv_write h fun c hc => ?_
          cases hcurrent.symm.trans hc
          refine before_of_edit ?_ (.inl rfl) (.inr ?_) <;> rfl
      · cases hstep
  | writeStatus =>
      simp only [State.step] at hstep
      split at hstep
      · next v hcurrent =>
          cases hstep
          refine inv_write h fun c hc => ?_
          cases hcurrent.symm.trans hc
          exact Before.refl _
      · cases hstep
  | markDeleting bump =>
      simp only [State.step] at hstep
      split at hstep
      · next v hcurrent =>
          cases hstep
          refine inv_write h fun c hc => ?_
          cases hcurrent.symm.trans hc
          cases bump with
          | false => refine before_of_edit ?_ (.inl rfl) (.inl ⟨?_, ?_⟩) <;> rfl
          | true => refine before_of_edit ?_ (.inl rfl) (.inr ?_) <;> rfl
      · cases hstep
  | vanish =>
      simp only [State.step] at hstep
      split at hstep
      · next v hcurrent =>
          cases hstep
          refine inv_write h fun c hc => ?_
          cases hcurrent.symm.trans hc
          exact before_of_edit rfl (.inr rfl) (.inl ⟨rfl, rfl⟩)
      · cases hstep
  | deliver now => exact inv_deliver laws h hok hstep
  | list now => exact inv_list laws h hok hstep
  | listEnds =>
      simp only [State.step] at hstep
      split at hstep
      · cases hstep
        exact { h with stored := fun _ => laws.get_tell _ _ }
      · cases hstep
  | trigger =>
      cases hstep
      exact { h with covered := fun _ _ => .inl (laws.due_request s.queue) }
  | begin => exact inv_begin h hok hstep
  | finish =>
      simp only [State.step] at hstep
      split at hstep
      · next hrunning =>
          cases hstep
          exact inv_finish laws h hrunning
      · cases hstep

theorem inv_of_reachable (laws : rt.Laws)
    (h : Reachable (system hash rt) (Orderly hash) s) : Inv hash s := by
  refine h.invariant ?_ fun _ _ _ hinv hok hstep =>
    inv_step laws hinv hok hstep
  rintro _ rfl
  exact inv_start laws

/-- When the watch has brought everything, nothing is due and no pass runs:
the last pass saw the spec of the object and whether it is being deleted. -/
theorem seen_of_idle (laws : rt.Laws)
    (h : Reachable (system hash rt) (Orderly hash) s) {v : Version Spec}
    (hcurrent : s.current = some (.applied v)) (hbrought : s.backlog = [])
    (hdue : rt.due s.queue = false) (hidle : s.running = none) :
    ∃ w, s.seen = some w ∧ w.uid = v.uid ∧ w.spec = v.spec ∧
      w.deleting = v.deleting := by
  have hinv := inv_of_reachable laws h
  have hfront : s.front = some (.applied v) := by
    have hlast := hinv.last
    rw [hcurrent, State.line, hbrought, List.append_nil] at hlast
    cases hs : s.front with
    | none =>
        rw [hs] at hlast
        cases hlast
    | some e =>
        rw [hs] at hlast
        exact congrArg some (Option.some.inj hlast)
  rcases hinv.covered v hfront with h | ⟨w, hlatest, hcovers⟩
  · rw [hdue] at h
    cases h
  · rw [State.latest, hidle, Option.none_or] at hlatest
    exact ⟨w, hlatest, hcovers.uid, hcovers.spec, hcovers.deleting⟩

end Runs

namespace Sample

/-- A filter that forgets after an hour, and a queue of one request. -/
def runtime : Runtime Nat where
  Cache := Nat → Option (UInt64 × Nat)
  noValues := fun _ => none
  poll now uid value cache :=
    match value with
    | none => (true, cache)
    | some x =>
        let live := fun other => (cache other).filter fun e => now < e.2 + 3600
        ((live uid).map (·.1) != some x,
          Function.update live uid (some (x, now)))
  kept cache uid := (cache uid).map (·.1)
  Store := Option (Version Nat)
  noObject := none
  tell object _ := object
  get store := store
  Queue := Bool
  idle := false
  request _ := true
  begin q := if q then some false else none
  finish q := q
  due q := q

theorem laws_runtime : runtime.Laws where
  kept_noValues _ := rfl
  dropped now uid value c h := by
    cases value with
    | none => cases h
    | some x =>
        refine ⟨rfl, ?_⟩
        have hlive : ((c uid).filter fun e => now < e.2 + 3600).map (·.1) =
            some x := by
          simpa [runtime] using h
        obtain ⟨e, he, rfl⟩ := Option.map_eq_some_iff.mp hlive
        exact congrArg (Option.map (·.1)) (Option.filter_eq_some_iff.mp he).1
  kept_poll now uid value c other x h := by
    cases value with
    | none =>
        rw [if_neg fun hnew => by cases hnew.2]
        exact h
    | some y =>
        by_cases hother : other = uid
        · subst hother
          simpa [runtime] using h
        · have hlive : ((c other).filter fun e => now < e.2 + 3600).map
              (·.1) = some x := by
            simpa [runtime, hother] using h
          obtain ⟨e, he, rfl⟩ := Option.map_eq_some_iff.mp hlive
          rw [if_neg fun h => hother h.1]
          exact congrArg (Option.map (·.1))
            (Option.filter_eq_some_iff.mp he).1
  get_noObject := rfl
  get_tell _ _ := rfl
  due_request _ := rfl
  due_finish _ h := h

/-- Different for all generations that fit. -/
def hash (fields : Int × Bool) : UInt64 :=
  UInt64.ofNat (2 * fields.1.toNat + fields.2.toNat)

/-- An edit during a pass and a status write after it, which the watch has
missed and lists; the status write of the next pass is dropped. -/
def edited : List (Event Nat) :=
  [.create 1 (some 1) 7, .deliver 0, .begin, .editSpec 8, .writeStatus,
    .list 2, .listEnds, .finish, .begin, .writeStatus, .deliver 3, .finish]

def afterEdit : State runtime :=
  ((system hash runtime).run (start runtime) edited).getD (start runtime)

end Sample

/-- The last pass saw the edit. -/
theorem seen_of_idle_edited :
    Sample.afterEdit.current = some (.applied
        { uid := 1, generation := some 2, deleting := false, spec := 8 }) ∧
      ∃ w, Sample.afterEdit.seen = some w ∧ w.uid = 1 ∧ w.spec = 8 ∧
        w.deleting = false := by
  have hrun : ((system Sample.hash Sample.runtime).checkedRun
      (Orderly Sample.hash) (start Sample.runtime)
      Sample.edited).isSome = true := by
    decide +kernel
  obtain ⟨s, hs⟩ := Option.isSome_iff_exists.mp hrun
  have hafter : Sample.afterEdit = s := by
    rw [Sample.afterEdit, System.run_of_checkedRun hs, Option.getD_some]
  have hcurrent : Sample.afterEdit.current = some (.applied
      { uid := 1, generation := some 2, deleting := false, spec := 8 }) := rfl
  have hreach : Reachable (system Sample.hash Sample.runtime)
      (Orderly Sample.hash) Sample.afterEdit := by
    rw [hafter]
    exact .of_checkedRun (.init rfl) hs
  exact ⟨hcurrent,
    seen_of_idle Sample.laws_runtime hreach hcurrent rfl rfl rfl⟩

end McpgOperator.Kube.Trigger
