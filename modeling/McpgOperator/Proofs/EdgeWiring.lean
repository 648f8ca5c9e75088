import McpgOperator.Proofs.EdgeCertificates

/-!
# What a pass over the edge leaves

The requests of one pass, with nothing in between: the listeners under the
field manager of its gateway are replaced as a whole, the Certificates of
the hostnames are applied, and those the list finds beside them are deleted
one by one. Each pass comes to an end, and whether it ends well depends on
the answers alone.
-/

namespace McpgOperator.EdgeWiring

open McpgOperator.Kube McpgOperator.Gateway McpgOperator.Templates
open McpgOperator.EdgeCertificates (Outcome ownerUid pending_of_resume
  stage_of_applyCertificate)

/-! ## The pass as a whole -/

/-- The listeners of one field manager, and the Certificates. -/
structure EdgeStore where
  listeners : List EdgeListener := []
  certs : List Certificate := []
  deriving DecidableEq

namespace EdgeStore

def answer (store : EdgeStore) (o : Outcome) : EdgeRequest → EdgeAnswer
  | .listCertificates uid =>
      match o.error with
      | some e => .failed e
      | none =>
          .listed (store.certs.filter fun cert => ownerUid cert = some uid)
  | _ =>
      match o.error with
      | some e => .failed e
      | none => .done

def perform (store : EdgeStore) : EdgeRequest → EdgeStore
  | .applyListeners _ listeners => { store with listeners := listeners }
  | .applyCertificate cert =>
      { store with
        certs := store.certs.filter (fun c => c.name ≠ cert.name) ++ [cert] }
  | .deleteCertificate name =>
      { store with certs := store.certs.filter fun c => c.name ≠ name }
  | .listCertificates _ => store

def listenerNames (store : EdgeStore) : List String :=
  store.listeners.map (·.name)

def certNames (store : EdgeStore) : List String :=
  store.certs.map (·.name)

end EdgeStore

theorem certNames_filter (store : EdgeStore) (keep : String → Bool) :
    EdgeStore.certNames
        { store with certs := store.certs.filter fun c => keep c.name } =
      store.certNames.filter keep :=
  List.filter_map.symm

/-- How far a pass is from its end: the stages still to come, then what is
left of this one. -/
def rank : EdgeNext → Nat × Nat
  | .ended _ => (0, 0)
  | .go p =>
      match p.stage with
      | .listeners => (3, 0)
      | .certificate _ rest => (2, rest.length)
      | .list => (1, 0)
      | .delete _ rest => (0, rest.length + 1)

theorem rank_applyRest (p : EdgePass) (rest : List String) :
    (rank (p.applyRest rest)).1 < 2 ∨
      ((rank (p.applyRest rest)).1 = 2 ∧
        (rank (p.applyRest rest)).2 < rest.length) := by
  cases rest with
  | nil => exact .inl Nat.one_lt_two
  | cons hostname rest => exact .inr ⟨rfl, Nat.lt_succ_self _⟩

theorem rank_deleteRest (p : EdgePass) (rest : List String) :
    rank (p.deleteRest rest) = (0, rest.length) := by
  cases rest <;> rfl

/-- An answer brings the pass nearer to its end. -/
theorem rank_resume_lt (sha256Hex : String → String) (p : EdgePass)
    (ans : EdgeAnswer) :
    Prod.Lex (· < ·) (· < ·) (rank (p.resume sha256Hex ans))
      (rank (.go p)) := by
  rw [Prod.lex_def]
  unfold EdgePass.resume
  cases hstage : p.stage with
  | listeners =>
      have hgo : (rank p.afterListeners).1 < 3 := by
        have := rank_applyRest p (if p.issuer.isNone then [] else p.domains)
        unfold EdgePass.afterListeners
        omega
      have hp : rank (.go p) = (3, 0) := by rw [rank, hstage]
      rw [hp]
      refine .inl ?_
      dsimp only
      split
      · split
        · exact hgo
        · exact Nat.zero_lt_succ _
      · exact hgo
  | certificate hostname rest =>
      have hp : rank (.go p) = (2, rest.length) := by rw [rank, hstage]
      rw [hp]
      dsimp only
      split
      · exact .inl (Nat.zero_lt_succ _)
      · exact rank_applyRest p rest
  | list =>
      have hp : rank (.go p) = (1, 0) := by rw [rank, hstage]
      rw [hp]
      refine .inl ?_
      dsimp only
      split
      · rw [rank_deleteRest]
        exact Nat.zero_lt_one
      · exact Nat.zero_lt_one
  | delete name rest =>
      have hp : rank (.go p) = (0, rest.length + 1) := by rw [rank, hstage]
      rw [hp, rank_deleteRest]
      exact .inr ⟨rfl, Nat.lt_succ_self _⟩

/-- To the end of the pass. No two requests of one pass differ in what they
are answered unless they differ themselves. -/
def runEdge (sha256Hex : String → String) (outcome : EdgeRequest → Outcome)
    (store : EdgeStore) (next : EdgeNext) :
    EdgeStore × Except KubeError Unit :=
  match next with
  | .ended result => (store, result)
  | .go p =>
      let r := p.request sha256Hex
      runEdge sha256Hex outcome
        (if (outcome r).takesEffect then store.perform r else store)
        (p.resume sha256Hex (store.answer (outcome r) r))
  termination_by rank next
  decreasing_by exact rank_resume_lt sha256Hex p _

section

variable {sha256Hex : String → String} {outcome : EdgeRequest → Outcome}
  {store : EdgeStore} {p : EdgePass} {uid : String}

theorem runEdge_ended (result : Except KubeError Unit) :
    runEdge sha256Hex outcome store (.ended result) = (store, result) := by
  rw [runEdge]

theorem runEdge_go (store : EdgeStore) :
    runEdge sha256Hex outcome store (.go p) =
      runEdge sha256Hex outcome
        (if (outcome (p.request sha256Hex)).takesEffect then
          store.perform (p.request sha256Hex) else store)
        (p.resume sha256Hex
          (store.answer (outcome (p.request sha256Hex))
            (p.request sha256Hex))) := by
  rw [runEdge]

/-! ## The collection -/

/-- The Certificate is deleted by name, and the delete takes effect. -/
def deletes (outcome : EdgeRequest → Outcome) (name : String) : Bool :=
  (outcome (.deleteCertificate name)).takesEffect

/-- A delete that is issued takes the name out, or nothing. -/
theorem store_after_delete (store : EdgeStore) (name : String) :
    (if deletes outcome name then store.perform (.deleteCertificate name)
      else store) =
      { store with
        certs := store.certs.filter fun c =>
          ¬ (c.name = name ∧ deletes outcome c.name = true) } := by
  cases hdeletes : deletes outcome name with
  | false =>
      have hall : ∀ c ∈ store.certs,
          decide (¬ (c.name = name ∧ deletes outcome c.name = true)) =
            true := by
        intro c _
        refine decide_eq_true ?_
        rintro ⟨rfl, hc⟩
        rw [hdeletes] at hc
        cases hc
      rw [List.filter_eq_self.mpr hall]
      rfl
  | true =>
      rw [if_pos rfl, EdgeStore.perform]
      congr 1
      refine List.filter_congr fun c _ => ?_
      by_cases hname : c.name = name
      · simp [hname, hdeletes]
      · simp [hname]

/-- Deletes leave the Certificates that none of them takes out. -/
theorem runEdge_deleteRest (p : EdgePass) (names : List String) :
    runEdge sha256Hex outcome store (p.deleteRest names) =
      ({ store with
         certs := store.certs.filter fun c =>
           ¬ (c.name ∈ names ∧ deletes outcome c.name = true) },
        .ok ()) := by
  induction names generalizing store p with
  | nil =>
      show runEdge sha256Hex outcome store (.ended (.ok ())) = _
      simp [runEdge_ended]
  | cons name rest ih =>
      show runEdge sha256Hex outcome store
        (.go { p with stage := .delete name rest }) = _
      rw [runEdge_go]
      show runEdge sha256Hex outcome
        (if deletes outcome name then store.perform (.deleteCertificate name)
          else store)
        (EdgePass.deleteRest { p with stage := .delete name rest } rest) = _
      rw [store_after_delete, ih, List.filter_filter]
      congr 2
      refine List.filter_congr fun c _ => ?_
      by_cases hname : c.name = name
      · simp only [hname, true_and, List.mem_cons, true_or]
        grind
      · simp [hname]

/-- The list succeeds and the delete takes effect. -/
def Collects (outcome : EdgeRequest → Outcome) (uid name : String) : Prop :=
  (outcome (.listCertificates uid)).error = none ∧
    deletes outcome name = true

/-- All Certificates are labelled with the uid. -/
def Labelled (uid : String) (store : EdgeStore) : Prop :=
  ∀ cert ∈ store.certs, ownerUid cert = some uid

theorem labelled_empty : Labelled uid {} :=
  fun _ hcert => absurd hcert List.not_mem_nil

/-- A list under the label finds every Certificate, so of those the pass
does not want all are deleted. -/
theorem mem_unwanted_iff (hlabelled : Labelled (edgeUid p.obj) store)
    {name : String} :
    name ∈ p.unwanted sha256Hex (store.certs.filter fun cert =>
        ownerUid cert = some (edgeUid p.obj)) ↔
      name ∈ store.certNames ∧ name ∉ p.wanted sha256Hex := by
  have hall : (store.certs.filter fun cert =>
      ownerUid cert = some (edgeUid p.obj)) = store.certs :=
    List.filter_eq_self.mpr fun cert hcert =>
      decide_eq_true (hlabelled cert hcert)
  rw [hall, EdgePass.unwanted, List.mem_filter, decide_eq_true_eq]
  rfl

/-- From the list on a pass ends well, and out go the Certificates it does
not want. -/
theorem runEdge_list (sha256Hex : String → String)
    (outcome : EdgeRequest → Outcome) (store : EdgeStore)
    (hstage : p.stage = .list) :
    (runEdge sha256Hex outcome store (.go p)).2 = .ok () ∧
      (runEdge sha256Hex outcome store (.go p)).1.listeners =
        store.listeners ∧
      (Labelled (edgeUid p.obj) store → ∀ name,
        name ∈ (runEdge sha256Hex outcome store (.go p)).1.certNames ↔
          name ∈ store.certNames ∧
            (name ∈ p.wanted sha256Hex ∨
              ¬ Collects outcome (edgeUid p.obj) name)) := by
  have hreq : p.request sha256Hex = .listCertificates (edgeUid p.obj) := by
    rw [EdgePass.request, hstage]
  have hstore : (if (outcome (.listCertificates (edgeUid p.obj))).takesEffect
      then store.perform (.listCertificates (edgeUid p.obj)) else store) =
      store := ite_self _
  rw [runEdge_go, hreq, hstore]
  unfold EdgePass.resume EdgeStore.answer
  rw [hstage]
  dsimp only
  cases herror : (outcome (.listCertificates (edgeUid p.obj))).error with
  | some e =>
      dsimp only
      rw [runEdge_ended]
      refine ⟨rfl, rfl, fun _ name => ?_⟩
      simp [Collects, herror]
  | none =>
      dsimp only
      rw [runEdge_deleteRest]
      refine ⟨rfl, rfl, fun hlabelled name => ?_⟩
      rw [certNames_filter store fun name =>
          ¬ (name ∈ p.unwanted sha256Hex (store.certs.filter fun cert =>
            ownerUid cert = some (edgeUid p.obj)) ∧
            deletes outcome name = true),
        List.mem_filter, decide_eq_true_eq, mem_unwanted_iff hlabelled]
      simp only [Collects, herror, true_and]
      tauto

/-! ## The applies -/

/-- The Certificate of the hostname, as the pass applies it. -/
def certificate (sha256Hex : String → String) (p : EdgePass)
    (hostname : String) : Certificate :=
  buildCertificate sha256Hex p.obj hostname (p.issuer.getD "")

theorem mem_certNames_perform {cert : Certificate} {name : String} :
    name ∈ (store.perform (.applyCertificate cert)).certNames ↔
      name ∈ store.certNames ∨ name = cert.name := by
  by_cases hname : name = cert.name
  · subst hname
    simp [EdgeStore.certNames, EdgeStore.perform]
  · simp only [EdgeStore.certNames, EdgeStore.perform, hname, or_false,
      List.mem_map, List.mem_append, List.mem_filter, List.mem_singleton]
    constructor
    · rintro ⟨c, ⟨hc, _⟩ | rfl, rfl⟩
      · exact ⟨c, hc, rfl⟩
      · exact absurd rfl hname
    · rintro ⟨c, hc, rfl⟩
      exact ⟨c, .inl ⟨hc, decide_eq_true hname⟩, rfl⟩

/-- Whether a pass ends well, and how, the answers alone decide. -/
theorem runEdge_result (store store' : EdgeStore) (next : EdgeNext) :
    (runEdge sha256Hex outcome store next).2 =
      (runEdge sha256Hex outcome store' next).2 := by
  induction store, next using runEdge.induct sha256Hex outcome
      generalizing store' with
  | case1 store result => rw [runEdge_ended, runEdge_ended]
  | case2 store p r ih =>
      cases hstage : p.stage with
      | list =>
          rw [(runEdge_list _ _ _ hstage).1, (runEdge_list _ _ _ hstage).1]
      | listeners | certificate hostname rest | delete name rest =>
          have hanswer : store'.answer (outcome r) r =
              store.answer (outcome r) r := by
            show store'.answer (outcome (p.request sha256Hex))
                (p.request sha256Hex) =
              store.answer (outcome (p.request sha256Hex))
                (p.request sha256Hex)
            unfold EdgePass.request
            rw [hstage]
            rfl
          rw [runEdge_go store, runEdge_go store']
          show _ = (runEdge sha256Hex outcome _
            (p.resume sha256Hex (store'.answer (outcome r) r))).2
          rw [hanswer]
          exact ih _

theorem answer_failed {o : Outcome} {e : KubeError}
    (h : o.error = some e) (r : EdgeRequest) :
    store.answer o r = .failed e := by
  cases r <;> simp [EdgeStore.answer, h]

theorem answer_done {o : Outcome} (h : o.error = none) {r : EdgeRequest}
    (hr : ∀ uid, r ≠ .listCertificates uid) :
    store.answer o r = .done := by
  cases r with
  | listCertificates uid => exact absurd rfl (hr uid)
  | _ => simp [EdgeStore.answer, h]

theorem takesEffect_of_error_none {o : Outcome} (h : o.error = none) :
    o.takesEffect = true := by
  rw [Outcome.takesEffect, h]
  rfl

/-- An apply of a pass that ends well succeeded. -/
theorem runEdge_certificate {hostname : String} {rest : List String}
    (hstage : p.stage = .certificate hostname rest)
    (hok : (runEdge sha256Hex outcome store (.go p)).2 = .ok ()) :
    runEdge sha256Hex outcome store (.go p) =
      runEdge sha256Hex outcome
        (store.perform (.applyCertificate (certificate sha256Hex p hostname)))
        (p.applyRest rest) := by
  have hreq : p.request sha256Hex =
      .applyCertificate (certificate sha256Hex p hostname) := by
    rw [EdgePass.request, hstage]
    rfl
  rw [runEdge_go, hreq] at hok ⊢
  cases herror : (outcome (.applyCertificate
      (certificate sha256Hex p hostname))).error with
  | some e =>
      rw [answer_failed herror, EdgePass.resume, hstage] at hok
      dsimp only at hok
      rw [runEdge_ended] at hok
      cases hok
  | none =>
      rw [answer_done herror (fun _ h => EdgeRequest.noConfusion h),
        if_pos (takesEffect_of_error_none herror)]
      simp only [EdgePass.resume, hstage]

/-- The apply of the listeners of such a pass succeeded, or there are none
to apply. -/
theorem runEdge_listeners (hstage : p.stage = .listeners)
    (hok : (runEdge sha256Hex outcome store (.go p)).2 = .ok ()) :
    runEdge sha256Hex outcome store (.go p) =
      runEdge sha256Hex outcome
        (if (outcome (p.request sha256Hex)).takesEffect then
          store.perform (p.request sha256Hex) else store)
        p.afterListeners := by
  have hlist : ∀ uid, p.request sha256Hex ≠ .listCertificates uid := by
    intro uid
    rw [EdgePass.request, hstage]
    intro heq
    cases heq
  rw [runEdge_go] at hok ⊢
  cases herror : (outcome (p.request sha256Hex)).error with
  | none =>
      rw [answer_done herror hlist]
      simp only [EdgePass.resume, hstage]
  | some e =>
      rw [answer_failed herror, EdgePass.resume, hstage] at hok ⊢
      dsimp only at hok ⊢
      by_cases hdomains : p.domains.isEmpty = true
      · rw [if_pos hdomains]
      · rw [if_neg hdomains, runEdge_ended] at hok
        cases hok

theorem labelled_perform {r : EdgeRequest} (h : Labelled uid store)
    (hr : ∀ cert, r = .applyCertificate cert → ownerUid cert = some uid) :
    Labelled uid (store.perform r) := by
  intro c hc
  cases r with
  | applyListeners manager listeners => exact h c hc
  | applyCertificate cert =>
      rcases List.mem_append.mp hc with hold | hnew
      · exact h c (List.mem_filter.mp hold).1
      · rw [List.mem_singleton.mp hnew]
        exact hr cert rfl
  | listCertificates owner => exact h c hc
  | deleteCertificate name => exact h c (List.mem_filter.mp hc).1

/-- A pass that ends well applied all its Certificates, and collected. -/
theorem runEdge_applyRest (p : EdgePass) (hostnames : List String)
    (hlabelled : Labelled (edgeUid p.obj) store)
    (hok : (runEdge sha256Hex outcome store
      (p.applyRest hostnames)).2 = .ok ()) :
    (runEdge sha256Hex outcome store (p.applyRest hostnames)).1.listeners =
        store.listeners ∧
      ∀ name,
        name ∈ (runEdge sha256Hex outcome store
            (p.applyRest hostnames)).1.certNames ↔
          (name ∈ store.certNames ∨
            name ∈ hostnames.map (edgeObjectName sha256Hex)) ∧
          (name ∈ p.wanted sha256Hex ∨
            ¬ Collects outcome (edgeUid p.obj) name) := by
  induction hostnames generalizing store with
  | nil =>
      have hlist : ({ p with stage := .list } : EdgePass).stage = .list :=
        rfl
      obtain ⟨_, hlisteners, hcerts⟩ :=
        runEdge_list sha256Hex outcome store hlist
      refine ⟨hlisteners, fun name => ?_⟩
      simp only [List.map_nil, List.not_mem_nil, or_false]
      exact hcerts hlabelled name
  | cons hostname rest ih =>
      have hnext : ∀ q : EdgePass, q = { p with
          stage := .certificate hostname rest } →
          q.applyRest rest = p.applyRest rest := by
        rintro q rfl
        cases rest <;> rfl
      have hrun : runEdge sha256Hex outcome store
          (p.applyRest (hostname :: rest)) =
          runEdge sha256Hex outcome
            (store.perform
              (.applyCertificate (certificate sha256Hex p hostname)))
            (p.applyRest rest) :=
        (runEdge_certificate (p := { p with
          stage := .certificate hostname rest }) rfl hok).trans
          (congrArg _ (hnext _ rfl))
      rw [hrun] at hok ⊢
      obtain ⟨hlisteners, hcerts⟩ := ih
        (labelled_perform hlabelled fun cert heq => by
          cases heq
          rfl) hok
      refine ⟨hlisteners, fun name => ?_⟩
      have hname : (certificate sha256Hex p hostname).name =
          edgeObjectName sha256Hex hostname := rfl
      rw [hcerts, mem_certNames_perform, List.map_cons, List.mem_cons, hname,
        or_assoc]

/-- What a whole pass that ends well leaves of the listeners and of the
Certificates. -/
theorem runEdge_start (hstage : p.stage = .listeners)
    (hlabelled : Labelled (edgeUid p.obj) store)
    (hok : (runEdge sha256Hex outcome store (.go p)).2 = .ok ()) :
    (runEdge sha256Hex outcome store (.go p)).1.listeners =
        (if (outcome (p.request sha256Hex)).takesEffect then
          buildEdgeListenerApply sha256Hex p.domains
        else store.listeners) ∧
      ∀ name,
        name ∈ (runEdge sha256Hex outcome store (.go p)).1.certNames ↔
          (name ∈ store.certNames ∨ name ∈ p.wanted sha256Hex) ∧
          (name ∈ p.wanted sha256Hex ∨
            ¬ Collects outcome (edgeUid p.obj) name) := by
  have hreq : p.request sha256Hex =
      .applyListeners (edgeFieldManager (edgeUid p.obj))
        (buildEdgeListenerApply sha256Hex p.domains) := by
    rw [EdgePass.request, hstage]
  have hhosts : (if p.issuer.isNone then [] else p.domains).map
      (edgeObjectName sha256Hex) = p.wanted sha256Hex := by
    unfold EdgePass.wanted
    split <;> rfl
  have hrun := runEdge_listeners hstage hok
  rw [EdgePass.afterListeners] at hrun
  rw [hrun] at hok ⊢
  cases htakes : (outcome (p.request sha256Hex)).takesEffect with
  | true =>
      rw [htakes, if_pos rfl, hreq] at hok
      rw [if_pos rfl, if_pos rfl, hreq]
      obtain ⟨hlisteners, hcerts⟩ := runEdge_applyRest p _
        (labelled_perform hlabelled fun cert h => by cases h) hok
      rw [hhosts] at hcerts
      exact ⟨hlisteners, hcerts⟩
  | false =>
      rw [htakes, if_neg Bool.false_ne_true] at hok
      rw [if_neg Bool.false_ne_true, if_neg Bool.false_ne_true]
      obtain ⟨hlisteners, hcerts⟩ := runEdge_applyRest p _ hlabelled hok
      rw [hhosts] at hcerts
      exact ⟨hlisteners, hcerts⟩

/-- A pass labels what it applies with the uid of its gateway. -/
theorem labelled_runEdge {next : EdgeNext} (h : Labelled uid store)
    (hnext : ∀ q, next = .go q → edgeUid q.obj = uid) :
    Labelled uid (runEdge sha256Hex outcome store next).1 := by
  induction store, next using runEdge.induct sha256Hex outcome with
  | case1 store result =>
      rw [runEdge_ended]
      exact h
  | case2 store p r ih =>
      have huid := hnext p rfl
      rw [runEdge_go]
      refine ih ?_ fun q hq => ?_
      · split
        · refine labelled_perform h fun cert hcert => ?_
          obtain ⟨_, _, _, _, howner⟩ := stage_of_applyCertificate hcert
          rw [howner, huid]
        · exact h
      · rw [(pending_of_resume hq).1, huid]

/-! ## The pass of a reconcile -/

/-- `reconcile_edge_domains`; over a gateway outside the cloud it does
nothing. -/
def wireEdge (sha256Hex : String → String) (outcome : EdgeRequest → Outcome)
    (issuer : Option String) (obj : MCPGGateway) (store : EdgeStore) :
    EdgeStore × Except KubeError Unit :=
  match EdgePass.start issuer false obj with
  | none => (store, .ok ())
  | some p => runEdge sha256Hex outcome store (.go p)

/-- What `wireEdge` asks for the listeners. -/
def listenersRequest (sha256Hex : String → String) (obj : MCPGGateway) :
    EdgeRequest :=
  .applyListeners (edgeFieldManager (edgeUid obj))
    (buildEdgeListenerApply sha256Hex (customDomains obj))

/-- The Certificates it does not collect. -/
def wantedCerts (sha256Hex : String → String) (issuer : Option String)
    (obj : MCPGGateway) : List String :=
  if issuer.isNone then []
  else (customDomains obj).map (edgeObjectName sha256Hex)

variable {issuer : Option String} {obj : MCPGGateway}

theorem wireEdge_result (store store' : EdgeStore) :
    (wireEdge sha256Hex outcome issuer obj store).2 =
      (wireEdge sha256Hex outcome issuer obj store').2 := by
  unfold wireEdge
  cases EdgePass.start issuer false obj with
  | none => rfl
  | some p => exact runEdge_result store store' _

theorem labelled_wireEdge (h : Labelled (edgeUid obj) store) :
    Labelled (edgeUid obj)
      (wireEdge sha256Hex outcome issuer obj store).1 := by
  unfold wireEdge
  cases hstart : EdgePass.start issuer false obj with
  | none => exact h
  | some p =>
      obtain ⟨cloud, _, rfl⟩ := Option.map_eq_some_iff.mp hstart
      refine labelled_runEdge h fun q hq => ?_
      cases hq
      rfl

/-- What is stored after a pass that ends well: of the listeners those of
the spec, if the apply took effect, and there are none in the spec if it did
not; of the Certificates the wanted ones, and those it could not collect. -/
theorem wireEdge_ok (hcloud : obj.spec.cloud ≠ none)
    (hlabelled : Labelled (edgeUid obj) store)
    (hok : (wireEdge sha256Hex outcome issuer obj store).2 = .ok ()) :
    (wireEdge sha256Hex outcome issuer obj store).1.listeners =
        (if (outcome (listenersRequest sha256Hex obj)).takesEffect then
          buildEdgeListenerApply sha256Hex (customDomains obj)
        else store.listeners) ∧
      ∀ name,
        name ∈ (wireEdge sha256Hex outcome issuer obj store).1.certNames ↔
          (name ∈ store.certNames ∨
            name ∈ wantedCerts sha256Hex issuer obj) ∧
          (name ∈ wantedCerts sha256Hex issuer obj ∨
            ¬ Collects outcome (edgeUid obj) name) := by
  obtain ⟨cloud, hcloud⟩ := Option.ne_none_iff_exists'.mp hcloud
  have hstart : EdgePass.start issuer false obj =
      some { obj := obj, issuer := issuer, cleanup := false
             stage := .listeners } := by
    rw [EdgePass.start, hcloud]
    rfl
  unfold wireEdge at hok ⊢
  rw [hstart] at hok ⊢
  exact runEdge_start rfl hlabelled hok

end

end McpgOperator.EdgeWiring
