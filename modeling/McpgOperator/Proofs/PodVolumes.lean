import McpgOperator.Admission.Gateway
import McpgOperator.Admission.Tenant
import McpgOperator.Proofs.PluginHold
import Mathlib.Tactic.IntervalCases

/-!
# The volumes of a rendered pod

The name of a plugin's or a Secret's volume is its id, cut and with
everything but letters and digits replaced; its path is the id as it stands,
or what the author wrote. Admission looks at ids, Secret names and paths,
never at what becomes of them, so the pod it lets through is well formed
exactly where nothing collapses and no path runs into another.
-/

namespace McpgOperator.PodVolumes

open McpgOperator.Gateway McpgOperator.Templates McpgOperator.Admission
  McpgOperator.PluginHold McpgOperator.Text

/-! ## What the apiserver and the gateway expect -/

/-- Lower-case letters, digits and inner hyphens, 63 at most. -/
structure IsRfc1123Label (s : String) : Prop where
  nonempty : s.toList ≠ []
  short : s.toList.length ≤ 63
  chars : ∀ c ∈ s.toList, isDnsLabelChar c = true
  begins : s.toList.head? ≠ some '-'
  ends : s.toList.getLast? ≠ some '-'

/-- One component below the directory. -/
def DirectChild (dir path : String) : Prop :=
  ∃ c, path = dir ++ "/" ++ c ∧ '/' ∉ c.toList ∧ c ≠ "" ∧ c ≠ "." ∧ c ≠ ".."

/-- The Deployment of a gateway with those plugins. -/
structure WellFormed (dep : Deployment) (mounts : List PluginSecretMount) :
    Prop where
  labels : ∀ v ∈ dep.volumes, IsRfc1123Label v.name
  names : (dep.volumes.map (·.name)).Nodup
  paths : (dep.volumeMounts.map (·.mountPath)).Nodup
  named : ∀ m ∈ dep.volumeMounts, ∃ v ∈ dep.volumes, v.name = m.name
  children : ∀ m ∈ mounts, ∃ vm ∈ dep.volumeMounts,
    vm.name = pluginVolumeName m.pluginId ∧
      vm.mountPath = "/etc/mcpg/plugins/" ++ m.pluginId ∧
      DirectChild pluginMountRoot vm.mountPath

/-! ## What becomes of a name -/

/-- The part of `volume_name` behind the prefix. -/
def sanitised (raw : String) : List Char :=
  trimMatches (· = '-')
    ((raw.toList.map fun c =>
      if c.isAlphanum then asciiLower c else '-').take 56)

/-- The names stay apart, and each leaves something. -/
def Kept (raws : List String) : Prop :=
  (raws.map sanitised).Nodup ∧ ∀ raw ∈ raws, sanitised raw ≠ []

instance (raws : List String) : Decidable (Kept raws) :=
  inferInstanceAs (Decidable (_ ∧ ∀ _ ∈ _, _))

theorem mem_trimMatches {p : Char → Bool} {cs : List Char} {c : Char}
    (h : c ∈ trimMatches p cs) : c ∈ cs := by
  unfold trimMatches at h
  have hback := (List.dropWhile_suffix p).subset (List.mem_reverse.mp h)
  exact (List.dropWhile_suffix p).subset (List.mem_reverse.mp hback)

theorem length_trimMatches_le (p : Char → Bool) (cs : List Char) :
    (trimMatches p cs).length ≤ cs.length := by
  unfold trimMatches
  rw [List.length_reverse]
  refine (List.dropWhile_suffix p).length_le.trans ?_
  rw [List.length_reverse]
  exact (List.dropWhile_suffix p).length_le

/-- What is left ends in a character that is not stripped. -/
theorem getLast?_trimMatches {p : Char → Bool} {cs : List Char} {c : Char}
    (h : (trimMatches p cs).getLast? = some c) : p c = false := by
  unfold trimMatches at h
  rw [List.getLast?_reverse] at h
  have hne := List.head?_dropWhile_not p (cs.dropWhile p).reverse
  rw [h] at hne
  exact hne

theorem trimMatches_eq_nil {p : Char → Bool} {cs : List Char} :
    trimMatches p cs = [] ↔ ∀ c ∈ cs, p c = true := by
  unfold trimMatches
  rw [List.reverse_eq_nil_iff, List.dropWhile_eq_nil_iff]
  constructor
  · intro h c hc
    by_contra hnot
    have hkept : c ∈ cs.dropWhile p := by
      rw [← List.takeWhile_append_dropWhile (p := p) (l := cs)] at hc
      exact (List.mem_append.mp hc).resolve_left
        fun htake => hnot (List.mem_takeWhile_imp htake)
    exact hnot (h c (List.mem_reverse.mpr hkept))
  · intro h c hc
    exact h c ((List.dropWhile_suffix p).subset (List.mem_reverse.mp hc))

/-- Letters and digits, lower-cased, are letters and digits. -/
theorem isDnsLabelChar_asciiLower {c : Char} (h : c.isAlphanum = true) :
    isDnsLabelChar (asciiLower c) = true ∧ asciiLower c ≠ '-' := by
  have hrange : (65 ≤ c.toNat ∧ c.toNat ≤ 90) ∨
      (97 ≤ c.toNat ∧ c.toNat ≤ 122) ∨ (48 ≤ c.toNat ∧ c.toNat ≤ 57) := by
    have hbool : ((decide (c.val ≥ 'A'.val ∧ c.val ≤ 'Z'.val) ||
        (decide (c.val ≥ 'a'.val) && decide (c.val ≤ 'z'.val))) ||
        (decide (c.val ≥ '0'.val) && decide (c.val ≤ '9'.val))) = true := h
    simp only [ge_iff_le, UInt32.le_iff_toNat_le, Bool.or_eq_true,
      Bool.and_eq_true, decide_eq_true_eq] at hbool
    have hc : c.val.toNat = c.toNat := rfl
    have hA : 'A'.val.toNat = 65 := rfl
    have hZ : 'Z'.val.toNat = 90 := rfl
    have ha : 'a'.val.toNat = 97 := rfl
    have hz : 'z'.val.toNat = 122 := rfl
    have h0 : '0'.val.toNat = 48 := rfl
    have h9 : '9'.val.toNat = 57 := rfl
    omega
  rw [← Char.ofNat_toNat c]
  generalize c.toNat = n at hrange
  rcases hrange with ⟨hlow, hhigh⟩ | ⟨hlow, hhigh⟩ | ⟨hlow, hhigh⟩ <;>
    interval_cases n <;> decide

theorem sanitised_ne_nil_iff {raw : String} :
    sanitised raw ≠ [] ↔
      ∃ c ∈ raw.toList.take 56, c.isAlphanum = true := by
  unfold sanitised
  rw [Ne, trimMatches_eq_nil, ← List.map_take, List.forall_mem_map]
  push Not
  refine exists_congr fun c => and_congr_right fun _ => ?_
  cases hc : c.isAlphanum with
  | false => simp
  | true => simpa using (isDnsLabelChar_asciiLower hc).2

theorem isDnsLabelChar_of_mem_sanitised {raw : String} {c : Char}
    (h : c ∈ sanitised raw) : isDnsLabelChar c = true := by
  obtain ⟨r, _, rfl⟩ :=
    List.mem_map.mp (List.mem_of_mem_take (mem_trimMatches h))
  split
  · next hr => exact (isDnsLabelChar_asciiLower hr).1
  · decide

theorem length_sanitised_le (raw : String) : (sanitised raw).length ≤ 56 :=
  (length_trimMatches_le _ _).trans (by simp)

/-- A prefix of six letters and the hyphen leave room for all of it. -/
theorem toList_volumeName {kind : String} (h : kind.toList.length = 6)
    (raw : String) :
    (volumeName kind raw).toList = kind.toList ++ '-' :: sanitised raw := by
  have hlength := length_sanitised_le raw
  unfold volumeName
  dsimp only
  rw [String.toList_ofList, List.append_assoc]
  refine List.take_of_length_le ?_
  rw [List.length_append, h]
  exact Nat.add_le_add_left (Nat.succ_le_succ hlength) 6

theorem isRfc1123Label_volumeName_iff {kind raw : String}
    (hlength : kind.toList.length = 6)
    (hchars : ∀ c ∈ kind.toList, isDnsLabelChar c = true)
    (hhead : kind.toList.head? ≠ some '-') :
    IsRfc1123Label (volumeName kind raw) ↔ sanitised raw ≠ [] := by
  have htext := toList_volumeName hlength raw
  have hkind : kind.toList ≠ [] := by
    intro hnil
    rw [hnil] at hlength
    cases hlength
  constructor
  · intro hlabel hnil
    refine hlabel.ends ?_
    rw [htext, hnil, List.getLast?_append]
    rfl
  · intro hne
    refine ⟨?_, ?_, ?_, ?_, ?_⟩
    · rw [htext]
      simp
    · rw [htext, List.length_append, hlength]
      exact Nat.add_le_add_left
        (Nat.succ_le_succ (length_sanitised_le raw)) 6
    · rw [htext, List.forall_mem_append, List.forall_mem_cons]
      exact ⟨hchars, by decide,
        fun _ hc => isDnsLabelChar_of_mem_sanitised hc⟩
    · rw [htext, List.head?_append_of_ne_nil _ hkind]
      exact hhead
    · rw [htext, List.getLast?_append_of_ne_nil _ (List.cons_ne_nil _ _),
        List.getLast?_cons_of_ne_nil hne]
      intro hlast
      have hstripped := getLast?_trimMatches hlast
      simp at hstripped

theorem volumeName_inj {kind raw raw' : String}
    (hlength : kind.toList.length = 6) :
    volumeName kind raw = volumeName kind raw' ↔
      sanitised raw = sanitised raw' := by
  rw [← String.toList_inj, toList_volumeName hlength,
    toList_volumeName hlength, List.append_cancel_left_eq, List.cons.injEq]
  exact and_iff_right rfl

/-- Volumes of one kind stay apart exactly when what is left of their names
does. -/
theorem nodup_volumeNames_iff {kind : String}
    (hlength : kind.toList.length = 6) (raws : List String) :
    (raws.map (volumeName kind)).Nodup ↔ (raws.map sanitised).Nodup := by
  unfold List.Nodup
  rw [List.pairwise_map, List.pairwise_map]
  simp only [Ne, volumeName_inj hlength]

/-! ## Names -/

section Pod

variable {gw : MCPGGateway} {mounts : List PluginSecretMount}
  {revocationList : Option RevocationListMount}

/-- The volumes that do not come from a list. -/
theorem volumeNames_eq :
    (buildVolumes gw mounts revocationList).map (·.name) =
      ["config", "runtime"] ++
        (mounts.map (·.pluginId)).map (volumeName "plugin") ++
        (revocationList.map fun _ => "revocation-list").toList ++
        (gw.spec.secretMounts.map (·.name)).map (volumeName "secret") := by
  unfold buildVolumes
  cases revocationList <;>
    simp [secretVolume, pluginVolumeName, secretVolumeName,
      runtimeVolumeName, Function.comp_def]

theorem ne_volumeName {kind s raw : String}
    (hkind : kind.toList.head?.isSome = true)
    (hne : s.toList.head? ≠ kind.toList.head?) :
    s ≠ volumeName kind raw := by
  obtain ⟨c, hc⟩ := Option.isSome_iff_exists.mp hkind
  rintro rfl
  rw [head_volumeName hc, hc] at hne
  exact hne rfl

variable (gw mounts revocationList) in
theorem nodup_volumeNames :
    ((buildVolumes gw mounts revocationList).map (·.name)).Nodup ↔
      ((mounts.map (·.pluginId)).map sanitised).Nodup ∧
        ((gw.spec.secretMounts.map (·.name)).map sanitised).Nodup := by
  rw [volumeNames_eq]
  constructor
  · intro h
    obtain ⟨hfront, hsecrets, -⟩ := List.nodup_append.mp h
    obtain ⟨hplugins, -, -⟩ := List.nodup_append.mp hfront
    exact ⟨(nodup_volumeNames_iff (by decide) _).mp
        (List.nodup_append.mp hplugins).2.1,
      (nodup_volumeNames_iff (by decide) _).mp hsecrets⟩
  · rintro ⟨hplugins, hsecrets⟩
    have hlist : ∀ s ∈ (revocationList.map fun _ =>
        "revocation-list").toList, s = "revocation-list" := by
      cases revocationList <;> simp
    refine List.nodup_append.mpr
      ⟨List.nodup_append.mpr ⟨List.nodup_append.mpr
        ⟨by decide, (nodup_volumeNames_iff (by decide) _).mpr hplugins, ?_⟩,
        by cases revocationList <;> simp, ?_⟩,
        (nodup_volumeNames_iff (by decide) _).mpr hsecrets, ?_⟩
    · intro s hs t ht
      obtain ⟨id, _, rfl⟩ := List.mem_map.mp ht
      simp only [List.mem_cons, List.not_mem_nil, or_false] at hs
      rcases hs with rfl | rfl <;>
        exact ne_volumeName (by decide) (by decide)
    · intro s hs t ht
      rw [hlist t ht]
      rcases List.mem_append.mp hs with hfixed | hplugin
      · simp only [List.mem_cons, List.not_mem_nil, or_false] at hfixed
        rcases hfixed with rfl | rfl <;> decide
      · obtain ⟨id, _, rfl⟩ := List.mem_map.mp hplugin
        exact (ne_volumeName (by decide) (by decide)).symm
    · intro s hs t ht
      obtain ⟨name, _, rfl⟩ := List.mem_map.mp ht
      rcases List.mem_append.mp hs with hs | hrevocation
      · rcases List.mem_append.mp hs with hfixed | hplugin
        · simp only [List.mem_cons, List.not_mem_nil, or_false] at hfixed
          rcases hfixed with rfl | rfl <;>
            exact ne_volumeName (by decide) (by decide)
        · obtain ⟨id, _, rfl⟩ := List.mem_map.mp hplugin
          exact pluginVolumeName_ne id name
      · rw [hlist s hrevocation]
        exact ne_volumeName (by decide) (by decide)

variable (gw mounts revocationList) in
theorem labels_iff :
    (∀ v ∈ buildVolumes gw mounts revocationList, IsRfc1123Label v.name) ↔
      (∀ id ∈ mounts.map (·.pluginId), sanitised id ≠ []) ∧
        ∀ name ∈ gw.spec.secretMounts.map (·.name), sanitised name ≠ [] := by
  have hplugin : ∀ id, IsRfc1123Label (volumeName "plugin" id) ↔
      sanitised id ≠ [] :=
    fun _ => isRfc1123Label_volumeName_iff (by decide)
      (List.all_eq_true.mp (by decide)) (by decide)
  have hsecret : ∀ name, IsRfc1123Label (volumeName "secret" name) ↔
      sanitised name ≠ [] :=
    fun _ => isRfc1123Label_volumeName_iff (by decide)
      (List.all_eq_true.mp (by decide)) (by decide)
  have hconfig : IsRfc1123Label "config" :=
    ⟨by decide, by decide, List.all_eq_true.mp (by decide), by decide,
      by decide⟩
  have hruntime : IsRfc1123Label "runtime" :=
    ⟨by decide, by decide, List.all_eq_true.mp (by decide), by decide,
      by decide⟩
  have hlist : ∀ s ∈ (revocationList.map fun _ => "revocation-list").toList,
      IsRfc1123Label s := by
    intro s hs
    obtain ⟨_, _, rfl⟩ := Option.map_eq_some_iff.mp (Option.mem_toList.mp hs)
    exact ⟨by decide, by decide, List.all_eq_true.mp (by decide), by decide,
      by decide⟩
  have hnames : (∀ v ∈ buildVolumes gw mounts revocationList,
      IsRfc1123Label v.name) ↔
      ∀ s ∈ (buildVolumes gw mounts revocationList).map (·.name),
        IsRfc1123Label s := by
    rw [List.forall_mem_map]
  rw [hnames, volumeNames_eq]
  simp only [List.forall_mem_append, List.forall_mem_cons]
  constructor
  · rintro ⟨⟨⟨-, hids⟩, -⟩, hsecrets⟩
    exact ⟨fun id hid => (hplugin id).mp (hids _ (List.mem_map_of_mem hid)),
      fun name hname =>
        (hsecret name).mp (hsecrets _ (List.mem_map_of_mem hname))⟩
  · rintro ⟨hids, hsecrets⟩
    refine ⟨⟨⟨⟨hconfig, hruntime, fun _ h => nomatch h⟩, ?_⟩, hlist⟩, ?_⟩
    · exact List.forall_mem_map.mpr fun id hid => (hplugin id).mpr (hids id hid)
    · exact List.forall_mem_map.mpr
        fun name hname => (hsecret name).mpr (hsecrets name hname)

/-! ## Paths -/

/-- The paths the operator mounts at. -/
def builtInPaths (mounts : List PluginSecretMount)
    (revocationList : Option RevocationListMount) : List String :=
  ["/etc/mcpg/config.yaml", "/var/lib/mcpg"] ++
    (mounts.map (·.pluginId)).map ("/etc/mcpg/plugins/" ++ ·) ++
    (revocationList.map fun _ => "/etc/mcpg/revocations").toList

theorem mountPaths_eq (secretMounts : List SecretMount) :
    (buildVolumeMounts mounts revocationList secretMounts).map (·.mountPath) =
      builtInPaths mounts revocationList ++
        secretMounts.map (·.mountPath) := by
  unfold buildVolumeMounts builtInPaths
  cases revocationList <;>
    simp [runtimeDir, revocationListMountDir, Function.comp_def]

theorem pluginPath_ne {s : String} (id : String)
    (h : ¬ "/etc/mcpg/plugins/".toList <+: s.toList) :
    s ≠ "/etc/mcpg/plugins/" ++ id := by
  rintro rfl
  rw [String.toList_append] at h
  exact h (List.prefix_append _ _)

theorem nodup_builtInPaths (h : (mounts.map (·.pluginId)).Nodup) :
    (builtInPaths mounts revocationList).Nodup := by
  have hinj : Function.Injective ("/etc/mcpg/plugins/" ++ · : String → String)
      := by
    intro a b hab
    have hlist := congrArg String.toList hab
    dsimp only at hlist
    rw [String.toList_append, String.toList_append] at hlist
    exact String.toList_inj.mp (List.append_cancel_left hlist)
  refine List.nodup_append.mpr ⟨List.nodup_append.mpr
    ⟨by decide, h.map hinj, ?_⟩, by cases revocationList <;> simp, ?_⟩
  · intro s hs t ht
    obtain ⟨id, _, rfl⟩ := List.mem_map.mp ht
    simp only [List.mem_cons, List.not_mem_nil, or_false] at hs
    rcases hs with rfl | rfl <;> exact pluginPath_ne id (by decide)
  · intro s hs t ht
    obtain ⟨_, _, rfl⟩ := Option.map_eq_some_iff.mp (Option.mem_toList.mp ht)
    rcases List.mem_append.mp hs with hfixed | hplugin
    · simp only [List.mem_cons, List.not_mem_nil, or_false] at hfixed
      rcases hfixed with rfl | rfl <;> decide
    · obtain ⟨id, _, rfl⟩ := List.mem_map.mp hplugin
      exact (pluginPath_ne id (by decide)).symm

theorem nodup_of_validateSecretMounts {i : Nat} {names paths : List String}
    {ms : List SecretMount}
    (h : validateSecretMounts i names paths ms = .ok ()) :
    (ms.map fun m => trimEndSlashes m.mountPath).Nodup ∧
      ∀ m ∈ ms, trimEndSlashes m.mountPath ∉ paths := by
  induction ms generalizing i names paths with
  | nil => exact ⟨List.nodup_nil, fun _ hm => nomatch hm⟩
  | cons m ms ih =>
      unfold validateSecretMounts at h
      dsimp only at h
      split at h
      · cases h
      split at h
      · cases h
      split at h
      · cases h
      split at h
      · cases h
      next hnew =>
      obtain ⟨hnodup, hfresh⟩ := ih h
      refine ⟨?_, List.forall_mem_cons.mpr ⟨?_, fun m' hm' => ?_⟩⟩
      · rw [List.map_cons, List.nodup_cons]
        refine ⟨fun hmem => ?_, hnodup⟩
        obtain ⟨m', hm', heq⟩ := List.mem_map.mp hmem
        exact hfresh m' hm' (heq ▸ List.mem_cons_self)
      · simpa using hnew
      · exact fun hmem => hfresh m' hm' (List.mem_cons_of_mem _ hmem)

/-- The paths of an admitted gateway's own mounts are apart. -/
theorem nodup_mountPaths_of_validateGateway
    (h : validateGateway gw = .ok ()) :
    (gw.spec.secretMounts.map (·.mountPath)).Nodup := by
  obtain ⟨_, _, h⟩ := Except.of_bind_ok h
  obtain ⟨_, _, h⟩ := Except.of_bind_ok h
  obtain ⟨_, _, h⟩ := Except.of_bind_ok h
  obtain ⟨_, _, h⟩ := Except.of_bind_ok h
  obtain ⟨_, hmounts, _⟩ := Except.of_bind_ok h
  have hnodup := (nodup_of_validateSecretMounts hmounts).1
  refine List.Nodup.of_map trimEndSlashes ?_
  rw [List.map_map]
  exact hnodup

/-! ## The pod -/

/-- Every mount finds its volume, whatever it is named. -/
theorem named_buildVolumeMounts {m : VolumeMount}
    (h : m ∈ buildVolumeMounts mounts revocationList gw.spec.secretMounts) :
    ∃ v ∈ buildVolumes gw mounts revocationList, v.name = m.name := by
  have hnames : (buildVolumeMounts mounts revocationList
      gw.spec.secretMounts).map (·.name) =
      (buildVolumes gw mounts revocationList).map (·.name) := by
    rw [volumeNames_eq]
    unfold buildVolumeMounts
    cases revocationList <;>
      simp [pluginVolumeName, secretVolumeName, runtimeVolumeName,
        Function.comp_def]
  have hmem := List.mem_map_of_mem (f := (·.name)) h
  rw [hnames] at hmem
  exact List.mem_map.mp hmem

theorem directChild_iff {id : String} (h : sanitised id ≠ []) :
    DirectChild pluginMountRoot ("/etc/mcpg/plugins/" ++ id) ↔
      '/' ∉ id.toList := by
  have happend : ∀ c : String, pluginMountRoot ++ "/" ++ c =
      "/etc/mcpg/plugins/" ++ c := fun c => rfl
  constructor
  · rintro ⟨c, heq, hslash, -⟩
    rw [happend] at heq
    have hlist := congrArg String.toList heq
    rw [String.toList_append, String.toList_append] at hlist
    rw [List.append_cancel_left hlist]
    exact hslash
  · intro hslash
    refine ⟨id, (happend id).symm, hslash, ?_, ?_, ?_⟩
    · rintro rfl
      exact h (by decide)
    · rintro rfl
      exact h (by decide)
    · rintro rfl
      exact h (by decide)

/-- For an admitted gateway and distinct plugin ids, exactly this is left to
chance: that the volume names of the plugins, and those of the Secrets, stay
apart and keep something; that no id has a slash; and that no Secret is
mounted where the operator mounts. -/
theorem wellFormed_iff (hadmitted : validateGateway gw = .ok ())
    (hids : (mounts.map (·.pluginId)).Nodup) (configHash : String)
    (pluginSetHash : Option String)
    (defaultPodAnnotations : List (String × String))
    (extraEnvFromSecrets : List String) :
    WellFormed (buildDeployment gw configHash mounts pluginSetHash
        revocationList defaultPodAnnotations extraEnvFromSecrets) mounts ↔
      Kept (mounts.map (·.pluginId)) ∧
        Kept (gw.spec.secretMounts.map (·.name)) ∧
        (∀ m ∈ mounts, '/' ∉ m.pluginId.toList) ∧
        ∀ m ∈ gw.spec.secretMounts,
          m.mountPath ∉ builtInPaths mounts revocationList := by
  have hnames := nodup_volumeNames gw mounts revocationList
  have hlabels := labels_iff gw mounts revocationList
  constructor
  · intro h
    obtain ⟨hpluginNames, hsecretNames⟩ := hnames.mp h.names
    obtain ⟨hpluginLabels, hsecretLabels⟩ := hlabels.mp h.labels
    refine ⟨⟨hpluginNames, hpluginLabels⟩, ⟨hsecretNames, hsecretLabels⟩,
      fun m hm => ?_, fun m hm hbuiltIn => ?_⟩
    · obtain ⟨vm, _, _, hpath, hchild⟩ := h.children m hm
      rw [hpath] at hchild
      exact (directChild_iff (hpluginLabels _ (List.mem_map_of_mem hm))).mp
        hchild
    · have hpaths : ((buildVolumeMounts mounts revocationList
          gw.spec.secretMounts).map (·.mountPath)).Nodup := h.paths
      rw [mountPaths_eq] at hpaths
      exact (List.nodup_append.mp hpaths).2.2 _ hbuiltIn _
        (List.mem_map_of_mem hm) rfl
  · rintro ⟨hplugins, hsecrets, hslashes, hbuiltIn⟩
    refine ⟨hlabels.mpr ⟨hplugins.2, hsecrets.2⟩,
      hnames.mpr ⟨hplugins.1, hsecrets.1⟩, ?_,
      fun m hm => named_buildVolumeMounts hm, fun m hm => ?_⟩
    · show ((buildVolumeMounts mounts revocationList
        gw.spec.secretMounts).map (·.mountPath)).Nodup
      rw [mountPaths_eq]
      refine List.nodup_append.mpr ⟨nodup_builtInPaths hids,
        nodup_mountPaths_of_validateGateway hadmitted, ?_⟩
      rintro path hpath _ huser rfl
      obtain ⟨m, hm, rfl⟩ := List.mem_map.mp huser
      exact hbuiltIn m hm hpath
    · refine ⟨{ name := pluginVolumeName m.pluginId
                mountPath := "/etc/mcpg/plugins/" ++ m.pluginId }, ?_, rfl,
        rfl, (directChild_iff
          (hplugins.2 _ (List.mem_map_of_mem hm))).mpr (hslashes m hm)⟩
      show _ ∈ buildVolumeMounts mounts revocationList gw.spec.secretMounts
      unfold buildVolumeMounts
      refine List.mem_append_left _ (List.mem_append_left _
        (List.mem_append_right _ ?_))
      exact List.mem_map_of_mem hm

end Pod

namespace Sample

/-- A gateway that is admitted, with this Secret mounted. -/
def gateway : MCPGGateway :=
  { metadata := { name := some "edge", namespace_ := some "payments" }
    spec :=
      { image := { tag := some "0.1.0-beta.60" }
        secretMounts := [{ name := "tls.edge", mountPath := "/tls" }] } }

def pluginMount (id : String) : PluginSecretMount :=
  { pluginId := id, secretName := "mcpg-plugin-ab12" }

def deployment (mounts : List PluginSecretMount) : Deployment :=
  buildDeployment gateway "9f86d081" mounts none none [] []

/-- The set below grants nothing. -/
def capabilities : CapabilityLib where
  parseError _ := some "unknown capability"
  knownNames := []

/-- A set of two plugins whose ids differ in one separator. -/
def pluginSet : PluginSet.MCPGPluginSet :=
  { metadata := { name := some "plugins", namespace_ := some "payments" }
    spec :=
      { entries :=
          [{ id := "dev.mcpg.echo", pluginRef := "echo", enabled := true
             config := none },
            { id := "dev-mcpg.echo", pluginRef := "echo", enabled := true
              config := none }] } }

end Sample

theorem wellFormed_echo :
    WellFormed (Sample.deployment [Sample.pluginMount "dev.mcpg.echo"])
      [Sample.pluginMount "dev.mcpg.echo"] :=
  (wellFormed_iff (by decide +kernel) (by decide) _ _ _ _).mpr
    ⟨by decide +kernel, by decide +kernel, by decide +kernel,
      by decide +kernel⟩

/-- The pod of every admitted gateway with the plugins of an admitted
set. -/
def AdmittedPodsWellFormed (lib : CapabilityLib) : Prop :=
  ∀ (gw : MCPGGateway) (set : PluginSet.MCPGPluginSet)
    (mounts : List PluginSecretMount) configHash pluginSetHash
    revocationList annotations envFrom,
    validateGateway gw = .ok () → validatePluginSet lib set = .ok () →
    mounts.map (·.pluginId) = set.spec.entries.map (·.id) →
    WellFormed (buildDeployment gw configHash mounts pluginSetHash
      revocationList annotations envFrom) mounts

/-- The two plugins have one volume name. -/
theorem not_admittedPodsWellFormed :
    ¬ AdmittedPodsWellFormed Sample.capabilities := by
  intro h
  have hpod := h Sample.gateway Sample.pluginSet
    [Sample.pluginMount "dev.mcpg.echo", Sample.pluginMount "dev-mcpg.echo"]
    "9f86d081" none none [] [] (by decide +kernel) (by decide +kernel)
    (by decide)
  have hnames := hpod.names
  revert hnames
  decide +kernel

end McpgOperator.PodVolumes
