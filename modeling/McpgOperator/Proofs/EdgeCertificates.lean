import McpgOperator.Gateway.Edge
import McpgOperator.Lib.Transition

/-!
# Whose Certificate is deleted

A Certificate is named after its hostname and labelled with whichever
gateway applied it last. A pass lists by the label and deletes, one request
after the other, what it found and does not want. Between the list and the
delete another gateway can come to the hostname and apply the Certificate,
and a gateway that re-applied a shared one is taken for its owner.

A pass that is about to delete a name never deletes it under a gateway that
has it, as long as no gateway came to have it since the list, and none had
it then. Certificates are followed together with who applied the one that is
stored; a deleted Certificate is nobody's.
-/

namespace McpgOperator.EdgeCertificates

open McpgOperator.Kube McpgOperator.Gateway McpgOperator.Templates
  Transition

/-! ## Runs -/

structure State where
  gateways : List MCPGGateway
  /-- Every version of a gateway that was ever stored. -/
  versions : List MCPGGateway
  certs : List Certificate
  /-- Which gateways, by uid, have applied the Certificate of that name
  since it was created. -/
  applied : List (String × String)
  running : List EdgePass
  deriving DecidableEq

/-- How a request goes: one that is answered by an error may have taken
effect. -/
structure Outcome where
  error : Option KubeError
  landed : Bool
  deriving DecidableEq

def Outcome.takesEffect (o : Outcome) : Bool := o.error.isNone || o.landed

inductive Action
  /-- A gateway is created, or edited. -/
  | store (gw : MCPGGateway)
  | remove (uid : String)
  | start (obj : MCPGGateway) (issuer : Option String)
  /-- The pass comes to its next request. -/
  | request (i : Nat) (o : Outcome)
  | stop (i : Nat)

def ownerUid (cert : Certificate) : Option String :=
  cert.labels.lookup edgeOwnerUidLabel

/-- What the store answers to a request. -/
def State.answer (s : State) (o : Outcome) : EdgeRequest → EdgeAnswer
  | .listCertificates uid =>
      match o.error with
      | some e => .failed e
      | none =>
          .listed (s.certs.filter fun cert => ownerUid cert = some uid)
  | _ =>
      match o.error with
      | some e => .failed e
      | none => .done

/-- What a request that takes effect does. -/
def State.perform (s : State) : EdgeRequest → State
  | .applyCertificate cert =>
      { s with
        certs := s.certs.filter (fun c => c.name ≠ cert.name) ++ [cert]
        applied := ((ownerUid cert).getD "", cert.name) :: s.applied }
  | .deleteCertificate name =>
      { s with
        certs := s.certs.filter fun c => c.name ≠ name
        applied := s.applied.filter fun a => a.2 ≠ name }
  | _ => s

/-- The pass goes on, or is over. -/
def State.resume (s : State) (i : Nat) : EdgeNext → State
  | .go p => { s with running := s.running.set i p }
  | .ended _ => { s with running := s.running.eraseIdx i }

section

variable (sha256Hex : String → String)

def State.request (s : State) (i : Nat) (p : EdgePass) (o : Outcome) :
    State :=
  let r := p.request sha256Hex
  let next := p.resume sha256Hex (s.answer o r)
  (if o.takesEffect then s.perform r else s).resume i next

/-- A pass is over a stored version, and no other over the same gateway is
under way. -/
def State.step (s : State) : Action → Option State
  | .store gw =>
      if gw.metadata.uid.isSome then
        some
          { s with
            gateways :=
              s.gateways.filter (fun g => edgeUid g ≠ edgeUid gw) ++ [gw]
            versions := s.versions ++ [gw] }
      else none
  | .remove uid =>
      some
        { s with gateways := s.gateways.filter fun g => edgeUid g ≠ uid }
  | .start obj issuer =>
      if obj ∈ s.versions ∧
          ∀ p ∈ s.running, edgeUid p.obj ≠ edgeUid obj then
        (EdgePass.start issuer obj.metadata.deletionTimestamp.isSome
          obj).map fun p => { s with running := s.running ++ [p] }
      else none
  | .request i o => (s.running[i]?).map fun p => s.request sha256Hex i p o
  | .stop i => some { s with running := s.running.eraseIdx i }

def edge : System State Action where
  init s :=
    s =
      { gateways := [], versions := [], certs := [], applied := []
        running := [] }
  step := State.step sha256Hex

/-! ## What must not happen -/

/-- The gateway is live and has a hostname of that name in its
`customDomains`. -/
def Serves (gw : MCPGGateway) (name : String) : Prop :=
  gw.metadata.deletionTimestamp = none ∧
    name ∈ (customDomains gw).map (edgeObjectName sha256Hex)

instance (gw : MCPGGateway) (name : String) :
    Decidable (Serves sha256Hex gw name) :=
  inferInstanceAs (Decidable (_ ∧ _))

/-- It has applied the Certificate, too. -/
def State.Holds (s : State) (gw : MCPGGateway) (name : String) : Prop :=
  Serves sha256Hex gw name ∧ (edgeUid gw, name) ∈ s.applied

instance (s : State) (gw : MCPGGateway) (name : String) :
    Decidable (s.Holds sha256Hex gw name) :=
  inferInstanceAs (Decidable (_ ∧ _))

/-- Some gateway other than that of the uid holds the name. -/
def State.HeldByOther (s : State) (uid name : String) : Prop :=
  ∃ gw ∈ s.gateways, edgeUid gw ≠ uid ∧ s.Holds sha256Hex gw name

instance (s : State) (uid name : String) :
    Decidable (s.HeldByOther sha256Hex uid name) :=
  inferInstanceAs (Decidable (∃ gw ∈ s.gateways, _))

/-- The action deletes a Certificate that another gateway holds. -/
def Steals (s : State) : Action → Prop
  | .request i o =>
      ∃ p ∈ s.running[i]?, o.takesEffect = true ∧
        ∃ name, p.request sha256Hex = .deleteCertificate name ∧
          s.HeldByOther sha256Hex (edgeUid p.obj) name
  | _ => False

/-! ## When nothing does -/

/-- The names a pass is about to delete. -/
def pending (p : EdgePass) : List String :=
  match p.stage with
  | .delete name rest => name :: rest
  | _ => []

/-- No pass over another gateway is about to delete the name. -/
def State.Unthreatened (s : State) (uid name : String) : Prop :=
  ∀ p ∈ s.running, edgeUid p.obj ≠ uid → name ∉ pending p

instance (s : State) (uid name : String) :
    Decidable (s.Unthreatened uid name) :=
  inferInstanceAs (Decidable (∀ p ∈ s.running, _))

/-- An edit brings a gateway no hostname whose Certificate it has applied
and another pass is about to delete; neither does a gateway apply one it
serves; and what a pass is told of without wanting it, no other gateway
holds. -/
def Careful (s : State) : Action → Prop
  | .store gw =>
      ∀ name, s.Holds sha256Hex gw name →
        s.Unthreatened (edgeUid gw) name
  | .request i o =>
      ∀ p ∈ s.running[i]?,
        match p.stage with
        | .certificate hostname _ =>
            o.takesEffect = true →
            (∃ gw ∈ s.gateways, edgeUid gw = edgeUid p.obj ∧
              Serves sha256Hex gw (edgeObjectName sha256Hex hostname)) →
            s.Unthreatened (edgeUid p.obj)
              (edgeObjectName sha256Hex hostname)
        | .list =>
            o.error = none →
            ∀ cert ∈ s.certs, ownerUid cert = some (edgeUid p.obj) →
              cert.name ∉ p.wanted sha256Hex →
              ¬ s.HeldByOther sha256Hex (edgeUid p.obj) cert.name
        | _ => True
  | _ => True

instance (s : State) : (a : Action) → Decidable (Careful sha256Hex s a)
  | .store gw =>
      decidable_of_iff
        (∀ name ∈ (customDomains gw).map (edgeObjectName sha256Hex),
          s.Holds sha256Hex gw name →
            s.Unthreatened (edgeUid gw) name)
        ⟨fun h name hholds => h name hholds.1.2 hholds,
          fun h name _ => h name⟩
  | .request i _ =>
      @Option.decidableForallMem _ _ (fun
        | { stage := .certificate _ _, .. } =>
            inferInstanceAs (Decidable (_ → _ → _))
        | { stage := .list, .. } =>
            inferInstanceAs (Decidable (_ → ∀ cert ∈ s.certs, _))
        | { stage := .listeners, .. } => isTrue trivial
        | { stage := .delete _ _, .. } => isTrue trivial) s.running[i]?
  | .remove _ | .start _ _ | .stop _ => isTrue trivial

end

/-! ## One request -/

section Steps

variable {sha256Hex : String → String} {s s' : State} {p q : EdgePass}

theorem of_applyRest {rest : List String} (h : p.applyRest rest = .go q) :
    q.obj = p.obj ∧ pending q = [] := by
  cases rest with
  | nil =>
      cases h
      exact ⟨rfl, rfl⟩
  | cons hostname rest =>
      cases h
      exact ⟨rfl, rfl⟩

theorem of_deleteRest {rest : List String} (h : p.deleteRest rest = .go q) :
    q.obj = p.obj ∧ pending q = rest := by
  cases rest with
  | nil => cases h
  | cons name rest =>
      cases h
      exact ⟨rfl, rfl⟩

/-- What a pass is about to delete it was about to delete before, or it has
just listed it. -/
theorem pending_of_resume {ans : EdgeAnswer}
    (h : p.resume sha256Hex ans = .go q) :
    q.obj = p.obj ∧ ∀ name ∈ pending q, name ∈ pending p ∨
      (p.stage = .list ∧
        ∃ certs, ans = .listed certs ∧
          name ∈ p.unwanted sha256Hex certs) := by
  -- a pass that goes on applying or listing deletes nothing yet
  have hnone : ∀ {rest} {P : String → Prop}, p.applyRest rest = .go q →
      q.obj = p.obj ∧ ∀ name ∈ pending q, P name :=
    fun h => ⟨(of_applyRest h).1, by simp [(of_applyRest h).2]⟩
  unfold EdgePass.resume at h
  split at h
  · split at h
    · split at h
      · exact hnone h
      · cases h
    · exact hnone h
  · split at h
    · cases h
    · exact hnone h
  · next hstage =>
      split at h
      · next certs =>
          obtain ⟨hobj, hpending⟩ := of_deleteRest h
          exact ⟨hobj, fun name hname =>
            .inr ⟨hstage, certs, rfl, hpending ▸ hname⟩⟩
      · cases h
  · next name rest hstage =>
      obtain ⟨hobj, hpending⟩ := of_deleteRest h
      refine ⟨hobj, fun other hother => .inl ?_⟩
      rw [hpending] at hother
      rw [pending, hstage]
      exact List.mem_cons_of_mem _ hother

theorem gateways_resume (s : State) (i : Nat) (next : EdgeNext) :
    (s.resume i next).gateways = s.gateways := by
  cases next <;> rfl

theorem applied_resume (s : State) (i : Nat) (next : EdgeNext) :
    (s.resume i next).applied = s.applied := by
  cases next <;> rfl

theorem mem_running_resume {i : Nat} {next : EdgeNext}
    (h : q ∈ (s.resume i next).running) : q ∈ s.running ∨ next = .go q := by
  cases next with
  | go p =>
      rcases List.mem_or_eq_of_mem_set h with hmem | rfl
      · exact .inl hmem
      · exact .inr rfl
  | ended r => exact .inl (List.mem_of_mem_eraseIdx h)

/-- A request makes another gateway hold a name only by applying it for
one that serves it. -/
theorem heldByOther_of_perform {r : EdgeRequest} {uid name : String}
    (h : (s.perform r).HeldByOther sha256Hex uid name) :
    s.HeldByOther sha256Hex uid name ∨
      ∃ cert, r = .applyCertificate cert ∧ cert.name = name ∧
        ∃ gw ∈ s.gateways, edgeUid gw = (ownerUid cert).getD "" ∧
          edgeUid gw ≠ uid ∧ Serves sha256Hex gw name := by
  obtain ⟨gw, hgw, hother, hserves, happlied⟩ := h
  cases r with
  | applyCertificate cert =>
      rcases List.mem_cons.mp happlied with heq | hold
      · obtain ⟨huid, hname⟩ := Prod.mk.inj heq
        exact .inr ⟨cert, rfl, hname.symm, gw, hgw, huid, hother, hserves⟩
      · exact .inl ⟨gw, hgw, hother, hserves, hold⟩
  | deleteCertificate other =>
      exact .inl ⟨gw, hgw, hother, hserves, (List.mem_filter.mp happlied).1⟩
  | applyListeners manager listeners =>
      exact .inl ⟨gw, hgw, hother, hserves, happlied⟩
  | listCertificates uid =>
      exact .inl ⟨gw, hgw, hother, hserves, happlied⟩

theorem running_perform (s : State) (r : EdgeRequest) :
    (s.perform r).running = s.running := by
  cases r <;> rfl

theorem heldByOther_resume {i : Nat} {next : EdgeNext} {uid name : String} :
    (s.resume i next).HeldByOther sha256Hex uid name ↔
      s.HeldByOther sha256Hex uid name := by
  unfold State.HeldByOther State.Holds
  rw [gateways_resume, applied_resume]

/-- Only the stage of an apply applies, and it applies the Certificate of
its hostname with the label of its gateway. -/
theorem stage_of_applyCertificate {cert : Certificate}
    (h : p.request sha256Hex = .applyCertificate cert) :
    ∃ hostname rest, p.stage = .certificate hostname rest ∧
      cert.name = edgeObjectName sha256Hex hostname ∧
      ownerUid cert = some (edgeUid p.obj) := by
  unfold EdgePass.request at h
  split at h
  · cases h
  · next hostname rest hstage =>
      cases h
      exact ⟨hostname, rest, hstage, rfl, rfl⟩
  · cases h
  · cases h

/-! ## Runs in which every step is careful -/

/-- Nothing that is about to be deleted is held by another gateway. -/
def Inv (sha256Hex : String → String) (s : State) : Prop :=
  ∀ p ∈ s.running, ∀ name ∈ pending p,
    ¬ s.HeldByOther sha256Hex (edgeUid p.obj) name

/-- Whoever holds a name held it before, or the edit gave it. -/
theorem heldByOther_of_store {gw : MCPGGateway} {uid name : String}
    (h : State.HeldByOther sha256Hex
      { s with
        gateways :=
          s.gateways.filter (fun g => edgeUid g ≠ edgeUid gw) ++ [gw]
        versions := s.versions ++ [gw] } uid name) :
    s.HeldByOther sha256Hex uid name ∨
      (edgeUid gw ≠ uid ∧ s.Holds sha256Hex gw name) := by
  obtain ⟨g, hg, hother, hholds⟩ := h
  rcases List.mem_append.mp hg with hold | hnew
  · exact .inl ⟨g, (List.mem_filter.mp hold).1, hother, hholds⟩
  · cases List.mem_singleton.mp hnew
    exact .inr ⟨hother, hholds⟩

theorem inv_store {gw : MCPGGateway} (hinv : Inv sha256Hex s)
    (hcareful : Careful sha256Hex s (.store gw))
    (hstep : s.step sha256Hex (.store gw) = some s') :
    Inv sha256Hex s' := by
  simp only [State.step] at hstep
  split at hstep
  · cases hstep
    intro p hp name hname hheld
    rcases heldByOther_of_store hheld with hbefore | ⟨hother, hholds⟩
    · exact hinv p hp name hname hbefore
    · exact hcareful name hholds p hp (Ne.symm hother) hname
  · cases hstep

theorem inv_start {obj : MCPGGateway} {issuer : Option String}
    (hinv : Inv sha256Hex s)
    (hstep : s.step sha256Hex (.start obj issuer) = some s') :
    Inv sha256Hex s' := by
  simp only [State.step] at hstep
  split at hstep
  · obtain ⟨p, hp, rfl⟩ := Option.map_eq_some_iff.mp hstep
    obtain ⟨cloud, _, rfl⟩ := Option.map_eq_some_iff.mp hp
    intro q hq name hname hheld
    rcases List.mem_append.mp hq with hq | hq
    · exact hinv q hq name hname hheld
    · cases List.mem_singleton.mp hq
      exact nomatch hname
  · cases hstep

/-- What a pass is about to delete after the request, this or another pass
of its gateway was about to delete before it, or it is among what was
listed. -/
theorem pending_of_request {i : Nat} {o : Outcome} {name : String}
    (hp : s.running[i]? = some p)
    (hq : q ∈ (s.request sha256Hex i p o).running)
    (hname : name ∈ pending q) :
    (∃ r ∈ s.running, edgeUid r.obj = edgeUid q.obj ∧ name ∈ pending r) ∨
      (q.obj = p.obj ∧ p.stage = .list ∧ o.error = none ∧
        name ∉ p.wanted sha256Hex ∧
        ∃ cert ∈ s.certs,
          ownerUid cert = some (edgeUid p.obj) ∧ cert.name = name) := by
  rcases mem_running_resume hq with hold | hnext
  · have hmem : q ∈ s.running := by
      split at hold
      · rwa [running_perform] at hold
      · exact hold
    exact .inl ⟨q, hmem, rfl, hname⟩
  · obtain ⟨hobj, hpending⟩ := pending_of_resume hnext
    rcases hpending name hname with hbefore | ⟨hstage, certs, hans, hun⟩
    · exact .inl ⟨p, List.mem_of_getElem? hp, by rw [hobj], hbefore⟩
    · obtain ⟨hcert, hwant⟩ := List.mem_filter.mp hun
      obtain ⟨cert, hcert, hcertname⟩ := List.mem_map.mp hcert
      have hlisted : o.error = none ∧ certs =
          s.certs.filter fun cert =>
            ownerUid cert = some (edgeUid p.obj) := by
        unfold EdgePass.request at hans
        rw [hstage] at hans
        unfold State.answer at hans
        dsimp only at hans
        split at hans
        · cases hans
        · next hok =>
            cases hans
            exact ⟨hok, rfl⟩
      rw [hlisted.2] at hcert
      obtain ⟨hstored, howner⟩ := List.mem_filter.mp hcert
      exact .inr ⟨hobj, hstage, hlisted.1, of_decide_eq_true hwant, cert,
        hstored, of_decide_eq_true howner, hcertname⟩

/-- The step at which a pass comes to delete something, and the one at which
a gateway comes to hold something, are both guarded. -/
theorem inv_request {i : Nat} {o : Outcome} (hinv : Inv sha256Hex s)
    (hcareful : Careful sha256Hex s (.request i o))
    (hp : s.running[i]? = some p) :
    Inv sha256Hex (s.request sha256Hex i p o) := by
  have hguard := hcareful p hp
  intro q hq name hname hheld
  have hbefore := pending_of_request hp hq hname
  have hheld : s.HeldByOther sha256Hex (edgeUid q.obj) name ∨
      (o.takesEffect = true ∧
        ∃ cert, p.request sha256Hex = .applyCertificate cert ∧
          cert.name = name ∧
          ∃ gw ∈ s.gateways, edgeUid gw = (ownerUid cert).getD "" ∧
            edgeUid gw ≠ edgeUid q.obj ∧ Serves sha256Hex gw name) := by
    have hheld := heldByOther_resume.mp hheld
    split at hheld
    · next hlands =>
        exact (heldByOther_of_perform hheld).imp_right fun h => ⟨hlands, h⟩
    · exact .inl hheld
  rcases hheld with hheld |
    ⟨hlands, cert, hreq, rfl, gw, hgw, huid, hother, hserves⟩
  · rcases hbefore with ⟨r, hr, hruid, hrname⟩ |
      ⟨hobj, hstage, hok, hwant, cert, hstored, howner, rfl⟩
    · exact hinv r hr name hrname (hruid ▸ hheld)
    · rw [hstage] at hguard
      exact hguard hok cert hstored howner hwant (hobj ▸ hheld)
  · obtain ⟨hostname, rest, hstage, hcert, howner⟩ :=
      stage_of_applyCertificate hreq
    rw [howner, Option.getD_some] at huid
    rw [hstage] at hguard
    rcases hbefore with ⟨r, hr, hruid, hrname⟩ | ⟨hobj, hlist, _⟩
    · rw [hcert] at hserves hrname
      exact hguard hlands ⟨gw, hgw, huid, hserves⟩ r hr
        (fun heq => hother (huid.trans (heq.symm.trans hruid))) hrname
    · rw [hstage] at hlist
      cases hlist

theorem inv_step {a : Action} (hinv : Inv sha256Hex s)
    (hcareful : Careful sha256Hex s a)
    (hstep : s.step sha256Hex a = some s') : Inv sha256Hex s' := by
  cases a with
  | store gw => exact inv_store hinv hcareful hstep
  | remove uid =>
      cases hstep
      intro p hp name hname ⟨gw, hgw, hheld⟩
      exact hinv p hp name hname ⟨gw, (List.mem_filter.mp hgw).1, hheld⟩
  | start obj issuer => exact inv_start hinv hstep
  | request i o =>
      obtain ⟨p, hp, rfl⟩ := Option.map_eq_some_iff.mp hstep
      exact inv_request hinv hcareful hp
  | stop i =>
      cases hstep
      exact fun p hp => hinv p (List.mem_of_mem_eraseIdx hp)

theorem inv_of_init (h : (edge sha256Hex).init s) : Inv sha256Hex s := by
  have hnone : s.running = [] := congrArg State.running h
  intro p hp
  rw [hnone] at hp
  cases hp

theorem inv_of_reachable
    (h : Reachable (edge sha256Hex) (Careful sha256Hex) s) :
    Inv sha256Hex s :=
  h.invariant (fun _ => inv_of_init)
    fun _ _ _ hinv hcareful hstep => inv_step hinv hcareful hstep

theorem pending_of_deleteCertificate {name : String}
    (h : p.request sha256Hex = .deleteCertificate name) :
    ∃ rest, p.stage = .delete name rest := by
  unfold EdgePass.request at h
  split at h
  · cases h
  · cases h
  · cases h
  · next rest hstage =>
      cases h
      exact ⟨rest, hstage⟩

theorem not_steals_of_inv (hinv : Inv sha256Hex s) (a : Action) :
    ¬ Steals sha256Hex s a := by
  intro hsteals
  cases a with
  | request i o =>
      obtain ⟨p, hp, _, name, hreq, hheld⟩ := hsteals
      obtain ⟨rest, hstage⟩ := pending_of_deleteCertificate hreq
      refine hinv p (List.mem_of_getElem? hp) name ?_ hheld
      rw [pending, hstage]
      exact List.mem_cons_self
  | _ => exact hsteals

/-! ## A careless step leads to a theft -/

/-- A request that succeeds. -/
def Outcome.ok : Outcome := { error := none, landed := true }

variable (sha256Hex) in
/-- A delete that is not the last leads to the next, and takes no other name
from anybody. -/
theorem request_of_delete {i : Nat} {first second : String}
    {rest : List String} (hp : s.running[i]? = some p)
    (hstage : p.stage = .delete first (second :: rest)) :
    (s.request sha256Hex i p .ok).running[i]? =
        some { p with stage := .delete second rest } ∧
      ∀ {uid name : String}, name ≠ first →
        s.HeldByOther sha256Hex uid name →
        (s.request sha256Hex i p .ok).HeldByOther sha256Hex uid name := by
  have hreq : p.request sha256Hex = .deleteCertificate first := by
    rw [EdgePass.request, hstage]
  have hafter : s.request sha256Hex i p .ok =
      (s.perform (.deleteCertificate first)).resume i
        (.go { p with stage := .delete second rest }) := by
    simp only [State.request, hreq, Outcome.takesEffect, Outcome.ok,
      Option.isNone_none, Bool.true_or, if_true]
    unfold EdgePass.resume
    rw [hstage]
    rfl
  rw [hafter]
  constructor
  · have hlen : i < s.running.length :=
      (List.getElem?_eq_some_iff.mp hp).choose
    exact List.getElem?_set_self hlen
  · rintro uid name hne ⟨gw, hgw, hother, hserves, happlied⟩
    refine ⟨gw, hgw, hother, hserves, List.mem_filter.mpr ⟨happlied, ?_⟩⟩
    exact decide_eq_true hne

/-- A pass that goes on alone comes to every name it is about to delete. -/
theorem steals_of_pending {i : Nat} {names : List String} {name : String}
    (hp : s.running[i]? = some p) (hpending : pending p = names)
    (hname : name ∈ names)
    (hheld : s.HeldByOther sha256Hex (edgeUid p.obj) name) :
    ∃ as s'' a, (edge sha256Hex).run s as = some s'' ∧
      Steals sha256Hex s'' a := by
  induction names generalizing s p with
  | nil => cases hname
  | cons first rest ih =>
      have hstage : p.stage = .delete first rest := by
        unfold pending at hpending
        split at hpending
        · next hstage =>
            cases hpending
            exact hstage
        · cases hpending
      have hreq : p.request sha256Hex = .deleteCertificate first := by
        rw [EdgePass.request, hstage]
      by_cases hfirst : name = first
      · subst hfirst
        exact ⟨[], s, .request i .ok, rfl, p, hp, rfl, name, hreq, hheld⟩
      · obtain ⟨second, rest, rfl⟩ : ∃ n ns, rest = n :: ns := by
          cases rest with
          | nil => exact absurd (List.mem_singleton.mp hname) hfirst
          | cons n ns => exact ⟨n, ns, rfl⟩
        have hnext := request_of_delete sha256Hex hp hstage
        obtain ⟨as, s'', a, hrun, hsteals⟩ := ih hnext.1 rfl
          ((List.mem_cons.mp hname).resolve_left hfirst)
          (hnext.2 hfirst hheld)
        exact ⟨.request i .ok :: as, s'', a,
          Option.bind_eq_some_iff.mpr
            ⟨_, Option.map_eq_some_iff.mpr ⟨p, hp, rfl⟩, hrun⟩,
          hsteals⟩

theorem steals_of_not_inv (h : ¬ Inv sha256Hex s) :
    ∃ as s'' a, (edge sha256Hex).run s as = some s'' ∧
      Steals sha256Hex s'' a := by
  unfold Inv at h
  push Not at h
  obtain ⟨p, hp, name, hname, hheld⟩ := h
  obtain ⟨i, hi⟩ := List.mem_iff_getElem?.mp hp
  exact steals_of_pending hi rfl hname hheld

theorem mem_running_of_ne {i : Nat} {next : EdgeNext}
    (hp : s.running[i]? = some p) (hq : q ∈ s.running) (hne : q ≠ p) :
    q ∈ (s.resume i next).running := by
  obtain ⟨j, hj⟩ := List.mem_iff_getElem?.mp hq
  have hij : j ≠ i := by
    rintro rfl
    exact hne (Option.some.inj (hj.symm.trans hp))
  cases next with
  | go r =>
      refine List.mem_iff_getElem?.mpr ⟨j, ?_⟩
      exact (List.getElem?_set_ne (Ne.symm hij)).trans hj
  | ended r => exact List.mem_eraseIdx_iff_getElem?.mpr ⟨j, hij, hj⟩

/-- Applying for a gateway that serves the hostname makes it hold the
name. -/
theorem heldByOther_of_apply {i : Nat} {o : Outcome} {gw : MCPGGateway}
    {uid hostname : String} {rest : List String}
    (hstage : p.stage = .certificate hostname rest)
    (hlands : o.takesEffect = true) (hgw : gw ∈ s.gateways)
    (huid : edgeUid gw = edgeUid p.obj) (hother : edgeUid gw ≠ uid)
    (hserves : Serves sha256Hex gw (edgeObjectName sha256Hex hostname)) :
    (s.request sha256Hex i p o).HeldByOther sha256Hex uid
      (edgeObjectName sha256Hex hostname) := by
  have hreq : p.request sha256Hex =
      .applyCertificate (buildCertificate sha256Hex p.obj hostname
        (p.issuer.getD "")) := by
    rw [EdgePass.request, hstage]
  unfold State.request
  dsimp only
  rw [if_pos hlands, hreq]
  refine heldByOther_resume.mpr ⟨gw, hgw, hother, hserves, ?_⟩
  rw [huid]
  exact List.mem_cons_self

/-- A list that succeeds leads to the deletes of what it found. -/
theorem request_of_list {i : Nat} {o : Outcome} {cert : Certificate}
    (hp : s.running[i]? = some p) (hstage : p.stage = .list)
    (hok : o.error = none) (hcert : cert ∈ s.certs)
    (howner : ownerUid cert = some (edgeUid p.obj))
    (hwant : cert.name ∉ p.wanted sha256Hex) :
    (∃ q ∈ (s.request sha256Hex i p o).running,
      q.obj = p.obj ∧ cert.name ∈ pending q) ∧
    ∀ {uid name : String}, s.HeldByOther sha256Hex uid name →
      (s.request sha256Hex i p o).HeldByOther sha256Hex uid name := by
  have hreq : p.request sha256Hex = .listCertificates (edgeUid p.obj) := by
    rw [EdgePass.request, hstage]
  have hstay : ∀ t, (if o.takesEffect then
      s.perform (.listCertificates t) else s) = s := by
    intro t
    split <;> rfl
  have hun : cert.name ∈ p.unwanted sha256Hex
      (s.certs.filter fun c => ownerUid c = some (edgeUid p.obj)) :=
    List.mem_filter.mpr
      ⟨List.mem_map_of_mem (List.mem_filter.mpr
        ⟨hcert, decide_eq_true howner⟩), decide_eq_true hwant⟩
  have hresume : ∃ q, q.obj = p.obj ∧ cert.name ∈ pending q ∧
      p.resume sha256Hex (s.answer o (.listCertificates (edgeUid p.obj))) =
        .go q := by
    unfold EdgePass.resume State.answer
    rw [hstage, hok]
    dsimp only
    cases hnames : p.unwanted sha256Hex
        (s.certs.filter fun c => ownerUid c = some (edgeUid p.obj)) with
    | nil => simp [hnames] at hun
    | cons first rest =>
        rw [hnames] at hun
        exact ⟨{ p with stage := .delete first rest }, rfl, hun, rfl⟩
  obtain ⟨q, hobj, hname, hgo⟩ := hresume
  unfold State.request
  rw [hreq]
  dsimp only
  rw [hstay, hgo]
  refine ⟨⟨q, ?_, hobj, hname⟩, fun h => heldByOther_resume.mpr h⟩
  have hlen : i < s.running.length :=
    (List.getElem?_eq_some_iff.mp hp).choose
  exact List.mem_iff_getElem?.mpr ⟨i, List.getElem?_set_self hlen⟩

/-- A careless step breaks the invariant. -/
theorem not_inv_of_careless {a : Action}
    (hcareless : ¬ Careful sha256Hex s a)
    (hstep : s.step sha256Hex a = some s') : ¬ Inv sha256Hex s' := by
  cases a with
  | store gw =>
      simp only [Careful, State.Unthreatened] at hcareless
      push Not at hcareless
      obtain ⟨name, hholds, p, hp, hother, hname⟩ := hcareless
      simp only [State.step] at hstep
      split at hstep
      · cases hstep
        exact fun hinv => hinv p hp name hname
          ⟨gw, List.mem_append_right _ List.mem_cons_self, hother.symm,
            hholds⟩
      · cases hstep
  | request i o =>
      obtain ⟨p, hp, rfl⟩ := Option.map_eq_some_iff.mp hstep
      simp only [Careful, Option.mem_def, hp, Option.some.injEq,
        forall_eq'] at hcareless
      cases hstage : p.stage with
      | certificate hostname rest =>
          rw [hstage] at hcareless
          simp only [State.Unthreatened] at hcareless
          push Not at hcareless
          obtain ⟨hlands, ⟨gw, hgw, huid, hserves⟩, q, hq, hother, hname⟩ :=
            hcareless
          have hne : q ≠ p := fun heq => hother (by rw [heq])
          have hmem : q ∈ (s.request sha256Hex i p o).running := by
            unfold State.request
            dsimp only
            rw [if_pos hlands]
            exact mem_running_of_ne
              ((congrArg (·[i]?) (running_perform s _)).trans hp)
              (by rwa [running_perform]) hne
          exact fun hinv => hinv q hmem _ hname
            (heldByOther_of_apply hstage hlands hgw huid
              (fun heq => hother (heq.symm.trans huid)) hserves)
      | list =>
          rw [hstage] at hcareless
          push Not at hcareless
          obtain ⟨hok, cert, hcert, howner, hwant, hheld⟩ := hcareless
          obtain ⟨⟨q, hq, hobj, hname⟩, hkeeps⟩ :=
            request_of_list hp hstage hok hcert howner hwant
          exact fun hinv => hinv q hq _ hname (hobj ▸ hkeeps hheld)
      | listeners =>
          rw [hstage] at hcareless
          exact absurd trivial hcareless
      | delete name rest =>
          rw [hstage] at hcareless
          exact absurd trivial hcareless
  | _ => exact absurd trivial hcareless

end Steps

/-! ## Thefts -/

/-- No interleaving takes a Certificate from a gateway that holds it. -/
def NotStolen (sha256Hex : String → String) : Prop :=
  ∀ s a, Reachable (edge sha256Hex) anyStep s → ¬ Steals sha256Hex s a

/-- A run of careful steps steals nothing, and from a careless step a run
goes on to a theft. -/
theorem notStolen_iff_careful (sha256Hex : String → String) :
    (∀ s a, Reachable (edge sha256Hex) (Careful sha256Hex) s →
      ¬ Steals sha256Hex s a) ∧
    (∀ s a s', (edge sha256Hex).step s a = some s' →
      ¬ Careful sha256Hex s a →
      ∃ as s'' b, (edge sha256Hex).run s' as = some s'' ∧
        Steals sha256Hex s'' b) :=
  ⟨fun _ a h => not_steals_of_inv (inv_of_reachable h) a,
    fun _ _ _ hstep hcareless =>
      steals_of_not_inv (not_inv_of_careless hcareless hstep)⟩

namespace Sample

/-- SHA-256 of the two hostnames there are. -/
def sha256Hex (s : String) : String :=
  if s = "mcp.acme.com" then
    "709a5d3bed1486a17902126c2c62db9e" ++
      "aa1e0e512a8b770e50cd22144b53fb17"
  else if s = "mcp.beta.com" then
    "64a3e789911d9a84c09af45550a60e8a" ++
      "2eadb828aa583023ad0a2dc2aa7c05dd"
  else ""

/-- The first eight bytes of it. -/
def certName : String := "cd-709a5d3bed1486a1"

def gateway (uid : String) (domains : List String) : MCPGGateway :=
  { metadata :=
      { name := some uid, namespace_ := some "tenant-acme"
        uid := some uid }
    spec :=
      { cloud := some
          { instanceSlug := uid, orgSlug := "acme"
            externalUrl := "https://" ++ uid ++ ".mcpg.cloud"
            customDomains := domains } } }

def empty : State :=
  { gateways := [], versions := [], certs := [], applied := []
    running := [] }

/-- A pass over the version of the gateway, from its start to its list. -/
def passOver (gw : MCPGGateway) (i : Nat) (requests : Nat) : List Action :=
  .start gw (some "letsencrypt") ::
    List.replicate requests (.request i .ok)

/-- `uid-a` gets its Certificate; the hostname moves to `uid-b`, whose pass
applies it after that of `uid-a` has listed it as its own. -/
def moved : List Action :=
  [.store (gateway "uid-a" ["mcp.acme.com"])] ++
    passOver (gateway "uid-a" ["mcp.acme.com"]) 0 3 ++
    [.store (gateway "uid-a" []),
      .store (gateway "uid-b" ["mcp.acme.com"])] ++
    passOver (gateway "uid-a" []) 0 2 ++
    passOver (gateway "uid-b" ["mcp.acme.com"]) 1 2

def afterMove : State :=
  ((edge sha256Hex).run empty moved).getD empty

/-- The pass of `uid-a`, at its delete. -/
def deleting : EdgePass :=
  { obj := gateway "uid-a" [], issuer := some "letsencrypt"
    cleanup := false, stage := .delete certName [] }

end Sample

theorem not_notStolen_moved : ¬ NotStolen Sample.sha256Hex := by
  intro h
  have hrun : (edge Sample.sha256Hex).run Sample.empty Sample.moved =
      some Sample.afterMove := by
    decide +kernel
  refine h Sample.afterMove (.request 0 .ok)
    (.of_run (.init rfl) (System.permitted_anyStep _ _ _) hrun) ?_
  refine ⟨Sample.deleting, by decide +kernel, rfl, Sample.certName, rfl, ?_⟩
  decide +kernel

namespace Sample

/-- Both gateways get their Certificates, then `uid-a` gives up its
hostname, and its pass comes to the delete. -/
def givenUp : List Action :=
  [.store (gateway "uid-a" ["mcp.acme.com"]),
    .store (gateway "uid-b" ["mcp.beta.com"])] ++
    passOver (gateway "uid-a" ["mcp.acme.com"]) 0 3 ++
    passOver (gateway "uid-b" ["mcp.beta.com"]) 0 3 ++
    [.store (gateway "uid-a" [])] ++
    passOver (gateway "uid-a" []) 0 2

def afterGivenUp : State :=
  ((edge sha256Hex).run empty givenUp).getD empty

end Sample

/-- The delete of the hostname that `uid-a` gave up takes its Certificate
out and steals nothing: that of `uid-b`, applied meanwhile, stays. -/
theorem notStolen_applied :
    (Sample.afterGivenUp.certs.map (·.name) =
        ["cd-709a5d3bed1486a1", "cd-64a3e789911d9a84"] ∧
      ((edge Sample.sha256Hex).step Sample.afterGivenUp
        (.request 0 .ok)).map (·.certs.map (·.name)) =
        some ["cd-64a3e789911d9a84"]) ∧
      ¬ Steals Sample.sha256Hex Sample.afterGivenUp (.request 0 .ok) := by
  have hrun : (edge Sample.sha256Hex).checkedRun (Careful Sample.sha256Hex)
      Sample.empty Sample.givenUp = some Sample.afterGivenUp := by
    decide +kernel
  exact ⟨by decide +kernel,
    (notStolen_iff_careful Sample.sha256Hex).1 _ _
      (.of_checkedRun (.init rfl) hrun)⟩

end McpgOperator.EdgeCertificates
