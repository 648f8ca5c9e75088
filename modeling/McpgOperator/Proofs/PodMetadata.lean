import McpgOperator.Proofs.CoordinatorProjection
import McpgOperator.Templates.PodMetadata

/-!
# Whose pods are whose

Labels and annotations of a pod come from the operator and from the author
of the object. The author's labels leave alone what the selectors look at,
so a Service, a disruption budget and a Deployment find the pods of their
own workload and no others. Annotations come in layers, and the last one
that has a key decides: what the operator is configured with, what the
gateway asks for, the hashes that a rollout depends on.
-/

namespace McpgOperator.Templates

open McpgOperator.Gateway McpgOperator.Kube McpgOperator.Text

/-! ## Selectors -/

/-- The name the workload goes by, of those of its kind. -/
def Workload.instanceName : Workload → String
  | .gateway parent _ => parent.metadata.name.getD ""
  | .server parent => parent.metadata.name.getD ""
  | .coordinator clusterName => clusterName

/-- `app.kubernetes.io/name`. -/
def Workload.appName : Workload → String
  | .gateway .. => "mcpg-gateway"
  | .server _ => "mcpg-server"
  | .coordinator _ => "mcpg-nats"

/-- The author's labels are never under the operator's keys. -/
theorem lookup_podLabels (parent : MCPGGateway)
    (userLabels : List (String × String)) {key : String}
    (h : isOperatorManaged key = true) :
    (podLabels parent userLabels).lookup key =
      (standardLabels parent).lookup key := by
  unfold podLabels
  generalize standardLabels parent = labels
  induction userLabels generalizing labels with
  | nil => rfl
  | cons label userLabels ih =>
      obtain ⟨k, v⟩ := label
      rw [List.foldl_cons, ih]
      dsimp only
      split
      · rfl
      · next hfree =>
          have hne : key ≠ k := by
            rintro rfl
            exact hfree h
          exact lookup_btreeInsert_ne hne v labels

theorem lookup_instance (w : Workload) :
    w.labels.lookup "app.kubernetes.io/instance" = some w.instanceName := by
  cases w with
  | gateway parent userLabels =>
      exact lookup_podLabels parent userLabels (by decide)
  | server parent => rfl
  | coordinator clusterName => rfl

theorem lookup_name (w : Workload) :
    w.labels.lookup "app.kubernetes.io/name" = some w.appName := by
  cases w with
  | gateway parent userLabels =>
      exact lookup_podLabels parent userLabels (by decide)
  | server parent => rfl
  | coordinator clusterName => rfl

theorem selector_eq (w : Workload) :
    w.selector =
      [("app.kubernetes.io/instance", w.instanceName),
        ("app.kubernetes.io/name", w.appName)] := by
  cases w <;> rfl

theorem selects_iff_names {w w' : Workload} :
    selects w.selector w'.labels = true ↔
      w'.instanceName = w.instanceName ∧ w'.appName = w.appName := by
  rw [selector_eq, selects, List.all_cons, List.all_cons, List.all_nil]
  dsimp only
  rw [lookup_instance, lookup_name]
  simp

/-- One object, whatever else it says. -/
def Workload.SameObject : Workload → Workload → Prop
  | .gateway parent _, .gateway parent' _ =>
      parent'.metadata.name.getD "" = parent.metadata.name.getD ""
  | .server parent, .server parent' =>
      parent'.metadata.name.getD "" = parent.metadata.name.getD ""
  | .coordinator clusterName, .coordinator clusterName' =>
      clusterName' = clusterName
  | _, _ => False

/-- Among the workloads of a namespace, the selector of one finds the pods of
that object and no others, however their authors label them. -/
theorem selects_iff (w w' : Workload) :
    selects w.selector w'.labels = true ↔ w.SameObject w' := by
  rw [selects_iff_names]
  have hserver : "mcpg-server" ≠ "mcpg-gateway" := by decide
  have hnats : "mcpg-nats" ≠ "mcpg-gateway" := by decide
  have hboth : "mcpg-nats" ≠ "mcpg-server" := by decide
  cases w with
  | gateway parent userLabels =>
      cases w' with
      | gateway => exact and_iff_left rfl
      | server => exact iff_of_false (fun h => hserver h.2) id
      | coordinator => exact iff_of_false (fun h => hnats h.2) id
  | server parent =>
      cases w' with
      | gateway => exact iff_of_false (fun h => hserver h.2.symm) id
      | server => exact and_iff_left rfl
      | coordinator => exact iff_of_false (fun h => hboth h.2) id
  | coordinator clusterName =>
      cases w' with
      | gateway => exact iff_of_false (fun h => hnats h.2.symm) id
      | server => exact iff_of_false (fun h => hboth h.2.symm) id
      | coordinator => exact and_iff_left rfl

/-! ## Annotations -/

/-- The last entry that has the key. -/
def lastEntry (key : String) (entries : List (String × String)) :
    Option String :=
  entries.reverse.lookup key

theorem lastEntry_append (key : String) (as bs : List (String × String)) :
    lastEntry key (as ++ bs) = (lastEntry key bs).or (lastEntry key as) := by
  unfold lastEntry
  rw [List.reverse_append, List.lookup_append]

theorem lookup_insertion (key k v : String)
    (m : List (String × String)) :
    (btreeInsert k v m).lookup key =
      (lastEntry key [(k, v)]).or (m.lookup key) := by
  rcases eq_or_ne key k with rfl | hne
  · rw [lookup_btreeInsert_self]
    simp [lastEntry]
  · rw [lookup_btreeInsert_ne hne]
    simp [lastEntry, List.lookup_cons, beq_eq_false_iff_ne.mpr hne]

theorem lookup_foldl_insert (key : String)
    (entries m : List (String × String)) :
    (entries.foldl (fun acc (k, v) => btreeInsert k v acc) m).lookup
        key =
      (lastEntry key entries).or (m.lookup key) := by
  induction entries generalizing m with
  | nil => rfl
  | cons e entries ih =>
      rw [List.foldl_cons, ih, ← List.singleton_append, lastEntry_append,
        Option.or_assoc]
      exact congrArg _ (lookup_insertion key e.1 e.2 m)

/-- A pair that is no pair is passed over. -/
theorem foldl_insertPair (pairs : List String)
    (m : List (String × String)) :
    pairs.foldl insertPair m =
      (pairs.filterMap readPair).foldl
        (fun acc (k, v) => btreeInsert k v acc) m := by
  induction pairs generalizing m with
  | nil => rfl
  | cons pair pairs ih =>
      rw [List.foldl_cons, ih, insertPair]
      cases hpair : readPair pair with
      | none => rw [List.filterMap_cons_none hpair]
      | some e => rw [List.filterMap_cons_some hpair, List.foldl_cons]

/-- The key of a pair has no separator, and neither side begins or ends with
white space. -/
structure Plain (e : String × String) : Prop where
  key : e.1 ≠ ""
  equals : '=' ∉ e.1.toList
  comma : ',' ∉ e.1.toList ∧ ',' ∉ e.2.toList
  keyEnds : (∀ c ∈ e.1.toList.head?, isWhitespace c = false) ∧
    ∀ c ∈ e.1.toList.getLast?, isWhitespace c = false
  valueEnds : (∀ c ∈ e.2.toList.head?, isWhitespace c = false) ∧
    ∀ c ∈ e.2.toList.getLast?, isWhitespace c = false

def Blank (s : String) : Prop := ∀ c ∈ s.toList, isWhitespace c = true

instance (s : String) : Decidable (Blank s) :=
  decidable_of_iff (s.toList.all isWhitespace = true) List.all_eq_true

/-- What may stand around a key and its value. -/
structure Spacing where
  before : String := ""
  behindKey : String := ""
  beforeValue : String := ""
  after : String := ""

structure Spacing.Sound (s : Spacing) : Prop where
  before : Blank s.before
  behindKey : Blank s.behindKey
  beforeValue : Blank s.beforeValue
  after : Blank s.after

/-- What stands between two commas: a pair, text without an equals sign, or
an equals sign with no key in front of it. -/
inductive Item
  | pair (e : String × String) (spacing : Spacing)
  | junk (text : String)
  | keyless (blank text : String)

def Item.text : Item → String
  | .pair e s =>
      s.before ++ e.1 ++ s.behindKey ++ "=" ++ s.beforeValue ++ e.2 ++ s.after
  | .junk text => text
  | .keyless blank text => blank ++ "=" ++ text

def Item.entry : Item → Option (String × String)
  | .pair e _ => some e
  | .junk _ => none
  | .keyless _ _ => none

def Item.Sound : Item → Prop
  | .pair e s => Plain e ∧ s.Sound
  | .junk text => ',' ∉ text.toList ∧ '=' ∉ text.toList
  | .keyless blank text => Blank blank ∧ ',' ∉ text.toList

theorem Blank.not_mem {s : String} (h : Blank s) {c : Char}
    (hc : isWhitespace c = false) : c ∉ s.toList := by
  intro hmem
  rw [h c hmem] at hc
  cases hc

theorem trimMatches_of_ends {p : Char → Bool} {cs : List Char}
    (hhead : ∀ c ∈ cs.head?, p c = false)
    (hlast : ∀ c ∈ cs.getLast?, p c = false) : trimMatches p cs = cs := by
  have hdrop : ∀ ds : List Char, (∀ c ∈ ds.head?, p c = false) →
      ds.dropWhile p = ds := by
    intro ds hds
    cases ds with
    | nil => rfl
    | cons d ds => exact List.dropWhile_cons_of_neg (by simp [hds d rfl])
  rw [trimMatches, hdrop cs hhead, hdrop cs.reverse, List.reverse_reverse]
  rw [List.head?_reverse]
  exact hlast

/-- Blanks around a text that neither begins nor ends with one. -/
theorem trim_spaced {before after : List Char} {s : String}
    (hbefore : ∀ c ∈ before, isWhitespace c = true)
    (hafter : ∀ c ∈ after, isWhitespace c = true)
    (hhead : ∀ c ∈ s.toList.head?, isWhitespace c = false)
    (hlast : ∀ c ∈ s.toList.getLast?, isWhitespace c = false) :
    trim (String.ofList (before ++ s.toList ++ after)) = s := by
  rw [trim, String.toList_ofList, trimMatches_append_right _ hafter,
    trimMatches_append_left hbefore, trimMatches_of_ends hhead hlast,
    String.ofList_toList]

/-- A pair reads the same before it is trimmed. -/
theorem readPair_trim (s : String) : readPair (trim s) = readPair s := by
  obtain ⟨before, after, hparts, hbefore, hafter⟩ :=
    exists_trimMatches isWhitespace s.toList
  have htrim : (trim s).toList = trimMatches isWhitespace s.toList := by
    rw [trim, String.toList_ofList]
  have hfree : ∀ cs : List Char, (∀ c ∈ cs, isWhitespace c = true) →
      '=' ∉ cs := fun cs hcs hmem => absurd (hcs _ hmem) (by decide)
  unfold readPair
  rw [htrim]
  cases hsplit : splitOnce '=' (trimMatches isWhitespace s.toList) with
  | none =>
      have hnone : splitOnce '=' s.toList = none := by
        rw [hparts, splitOnce_eq_none, List.mem_append, List.mem_append]
        rintro (hmem | hmem | hmem)
        · exact hfree _ hbefore hmem
        · exact splitOnce_eq_none.mp hsplit hmem
        · exact hfree _ hafter hmem
      rw [hnone]
  | some parts =>
      obtain ⟨k, v⟩ := parts
      obtain ⟨hmid, hkey⟩ := splitOnce_some hsplit
      have hsome : splitOnce '=' s.toList = some (before ++ k, v ++ after) := by
        have hcs : s.toList = (before ++ k) ++ '=' :: (v ++ after) := by
          rw [hparts, hmid]
          simp
        rw [hcs, splitOnce_append]
        rw [List.mem_append]
        rintro (hmem | hmem)
        · exact hfree _ hbefore hmem
        · exact hkey hmem
      rw [hsome]
      dsimp only
      simp only [trim, String.toList_ofList,
        trimMatches_append_left hbefore, trimMatches_append_right _ hafter]

theorem readPair_pair {e : String × String} {s : Spacing} (h : Plain e)
    (hs : s.Sound) : readPair (Item.pair e s).text = some e := by
  have htext : (Item.pair e s).text.toList =
      (s.before.toList ++ e.1.toList ++ s.behindKey.toList) ++
        '=' :: (s.beforeValue.toList ++ e.2.toList ++ s.after.toList) := by
    simp [Item.text]
  have hkey : '=' ∉ s.before.toList ++ e.1.toList ++ s.behindKey.toList := by
    rw [List.mem_append, List.mem_append]
    rintro ((hmem | hmem) | hmem)
    · exact hs.before.not_mem (by decide) hmem
    · exact h.equals hmem
    · exact hs.behindKey.not_mem (by decide) hmem
  unfold readPair
  rw [htext, splitOnce_append hkey]
  dsimp only
  rw [trim_spaced hs.before hs.behindKey h.keyEnds.1 h.keyEnds.2,
    trim_spaced hs.beforeValue hs.after h.valueEnds.1 h.valueEnds.2,
    if_neg h.key]

theorem readPair_keyless {blank : String} (h : Blank blank)
    (text : String) : readPair (Item.keyless blank text).text = none := by
  have htext : (Item.keyless blank text).text.toList =
      blank.toList ++ '=' :: text.toList := by simp [Item.text]
  have hempty : trim blank = "" := trim_eq_empty.mpr h
  unfold readPair
  rw [htext, splitOnce_append (h.not_mem (by decide))]
  dsimp only
  rw [String.ofList_toList, if_pos hempty]

theorem readPair_item {item : Item} (h : item.Sound) :
    readPair (trim item.text) = item.entry := by
  rw [readPair_trim]
  cases item with
  | pair e s => exact readPair_pair h.1 h.2
  | junk text =>
      have hsplit : splitOnce '=' text.toList = none :=
        splitOnce_eq_none.mpr h.2
      show readPair text = none
      rw [readPair, hsplit]
  | keyless blank text => exact readPair_keyless h.1 text

theorem comma_not_mem_text {item : Item} (h : item.Sound) :
    ',' ∉ item.text.toList := by
  have hcomma : isWhitespace ',' = false := by decide
  cases item with
  | pair e s =>
      obtain ⟨hplain, hs⟩ := h
      simp [Item.text, hs.before.not_mem hcomma, hplain.comma,
        hs.behindKey.not_mem hcomma, hs.beforeValue.not_mem hcomma,
        hs.after.not_mem hcomma]
  | junk text => exact h.1
  | keyless blank text =>
      simp [Item.text, h.1.not_mem hcomma, h.2]

theorem splitComma_intercalate {parts : List String} (hne : parts ≠ [])
    (h : ∀ part ∈ parts, ',' ∉ part.toList) :
    splitComma (",".intercalate parts) = parts := by
  have hsplit : ((",".intercalate parts).toList.splitOn ',') =
      parts.map String.toList := by
    rw [String.toList_intercalate]
    refine List.splitOn_intercalate ',' ?_ (by simpa using hne)
    simpa using h
  rw [splitComma, hsplit, List.map_map]
  exact (List.map_congr_left fun s _ => String.ofList_toList).trans
    (List.map_id _)

/-- What trimming leaves neither begins nor ends with what it takes. -/
theorem ends_trimMatches (p : Char → Bool) (cs : List Char) :
    (∀ c ∈ (trimMatches p cs).head?, p c = false) ∧
      ∀ c ∈ (trimMatches p cs).getLast?, p c = false := by
  have hfirst : ∀ ds : List Char, ∀ c ∈ (ds.dropWhile p).head?,
      p c = false := by
    intro ds c hc
    have hnot := List.head?_dropWhile_not p ds
    rw [Option.mem_def.mp hc] at hnot
    exact hnot
  unfold trimMatches
  refine ⟨fun c hc => ?_, fun c hc => ?_⟩
  · -- the last of a suffix is the last
    rw [List.head?_reverse] at hc
    have hsuffix := List.dropWhile_suffix p (l := (cs.dropWhile p).reverse)
    obtain ⟨front, hfront⟩ := hsuffix
    have hlast : (cs.dropWhile p).reverse.getLast? = some c := by
      rw [← hfront, List.getLast?_append, Option.mem_def.mp hc]
      rfl
    rw [List.getLast?_reverse] at hlast
    exact hfirst cs c hlast
  · rw [List.getLast?_reverse] at hc
    exact hfirst _ c hc

/-- Whatever stands between two commas is an item. -/
theorem exists_item (part : String) (h : ',' ∉ part.toList) :
    ∃ item : Item, item.Sound ∧ item.text = part := by
  cases hsplit : splitOnce '=' part.toList with
  | none => exact ⟨.junk part, ⟨h, splitOnce_eq_none.mp hsplit⟩, rfl⟩
  | some parts =>
      obtain ⟨k, v⟩ := parts
      obtain ⟨hpart, hequals⟩ := splitOnce_some hsplit
      rw [hpart, List.mem_append, List.mem_cons, not_or, not_or] at h
      obtain ⟨hk, -, hv⟩ := h
      obtain ⟨before, behindKey, hkey, hbefore, hbehind⟩ :=
        exists_trimMatches isWhitespace k
      obtain ⟨beforeValue, after, hvalue, hbeforeValue, hafter⟩ :=
        exists_trimMatches isWhitespace v
      have hkeyEnds := ends_trimMatches isWhitespace k
      have hvalueEnds := ends_trimMatches isWhitespace v
      generalize trimMatches isWhitespace k = key at hkey hkeyEnds
      generalize trimMatches isWhitespace v = value at hvalue hvalueEnds
      subst hkey hvalue
      by_cases hempty : key = []
      · refine ⟨.keyless (String.ofList (before ++ behindKey))
          (String.ofList (beforeValue ++ (value ++ after))), ⟨?_, ?_⟩, ?_⟩
        · intro c hc
          rw [String.toList_ofList, List.mem_append] at hc
          exact hc.elim (hbefore c) (hbehind c)
        · rwa [String.toList_ofList]
        · rw [← String.toList_inj, hpart, hempty]
          simp [Item.text]
      · simp only [List.mem_append, not_or] at hk hv hequals
        refine ⟨.pair (String.ofList key, String.ofList value)
          { before := String.ofList before
            behindKey := String.ofList behindKey
            beforeValue := String.ofList beforeValue
            after := String.ofList after }, ⟨?_, ?_⟩, ?_⟩
        · exact
            { key := by simpa using hempty
              equals := by simpa using hequals.2.1
              comma := by simpa using ⟨hk.2.1, hv.2.1⟩
              keyEnds := by simpa using hkeyEnds
              valueEnds := by simpa using hvalueEnds }
        · constructor <;> unfold Blank <;> rw [String.toList_ofList] <;>
            assumption
        · rw [← String.toList_inj, hpart]
          simp [Item.text]

/-- So every setting is made of items. -/
theorem exists_items (raw : String) :
    ∃ items : List Item, (∀ item ∈ items, item.Sound) ∧
      ",".intercalate (items.map Item.text) = raw := by
  have hchars : ∀ n, ∀ cs : List Char, cs.length ≤ n →
      ∃ first : Item, ∃ rest : List Item, (∀ item ∈ first :: rest, item.Sound) ∧
        (",".intercalate ((first :: rest).map Item.text)).toList = cs := by
    intro n
    induction n with
    | zero =>
        intro cs hlength
        obtain rfl := List.length_eq_zero_iff.mp (Nat.le_zero.mp hlength)
        exact ⟨.junk "", [], List.forall_mem_singleton.mpr
          ⟨List.not_mem_nil, List.not_mem_nil⟩, rfl⟩
    | succ n ih =>
        intro cs hlength
        cases hsplit : splitOnce ',' cs with
        | none =>
            obtain ⟨item, hsound, htext⟩ := exists_item (String.ofList cs)
              (by rw [String.toList_ofList]; exact splitOnce_eq_none.mp hsplit)
            refine ⟨item, [], List.forall_mem_singleton.mpr hsound, ?_⟩
            simp [htext]
        | some parts =>
            obtain ⟨part, later⟩ := parts
            obtain ⟨rfl, hcomma⟩ := splitOnce_some hsplit
            obtain ⟨item, hsound, htext⟩ :=
              exists_item (String.ofList part)
                (by rwa [String.toList_ofList])
            obtain ⟨first, rest, hrest, hlater⟩ := ih later (by
              simp only [List.length_append, List.length_cons] at hlength
              omega)
            refine ⟨item, first :: rest,
              List.forall_mem_cons.mpr ⟨hsound, hrest⟩, ?_⟩
            rw [← hlater]
            simp [String.toList_intercalate, htext]
  obtain ⟨first, rest, hsound, htext⟩ := hchars _ raw.toList (Nat.le_refl _)
  exact ⟨first :: rest, hsound, String.toList_inj.mp htext⟩

/-- What is read of the operator's setting are its pairs. -/
theorem gatewayPodAnnotationsMap_items {items : List Item}
    (h : ∀ item ∈ items, item.Sound) :
    gatewayPodAnnotationsMap (some (",".intercalate (items.map Item.text))) =
      (items.filterMap Item.entry).foldl
        (fun acc (k, v) => btreeInsert k v acc) [] := by
  have hblank : ∀ pairs : List String,
      (pairs.filter (· ≠ "")).filterMap readPair =
        pairs.filterMap readPair := by
    intro pairs
    rw [List.filterMap_filter]
    refine List.filterMap_congr fun pair _ => ?_
    by_cases hpair : pair = ""
    · rw [hpair]
      rfl
    · simp [hpair]
  cases items with
  | nil => rfl
  | cons first rest =>
      have hsplit : splitComma
          (",".intercalate ((first :: rest).map Item.text)) =
          (first :: rest).map Item.text := by
        refine splitComma_intercalate (List.cons_ne_nil _ _) ?_
        intro text htext
        obtain ⟨item, hitem, rfl⟩ := List.mem_map.mp htext
        exact comma_not_mem_text (h item hitem)
      have hread : ∀ item ∈ first :: rest,
          ((readPair ∘ trim) ∘ Item.text) item = item.entry := by
        intro item hitem
        rw [Function.comp_apply, Function.comp_apply]
        exact readPair_item (h item hitem)
      unfold gatewayPodAnnotationsMap
      dsimp only
      rw [hsplit, foldl_insertPair, hblank, List.filterMap_map,
        List.filterMap_map]
      rw [List.filterMap_congr hread]

/-- The annotation under a key is the one of the last layer that has it: the
pairs of the operator's setting, the gateway's own, and the hashes. -/
theorem annotation_of_layers {items : List Item}
    (h : ∀ item ∈ items, item.Sound) (parent : MCPGGateway)
    (configHash : String) (pluginSetHash : Option String)
    (revocationList : Option RevocationListMount) (key : String) :
    (podAnnotations parent configHash pluginSetHash revocationList
        (gatewayPodAnnotationsMap
          (some (",".intercalate (items.map Item.text))))).lookup key =
      lastEntry key
        (items.filterMap Item.entry ++ parent.spec.podAnnotations ++
          [("mcpg.dev/config-hash", configHash)] ++
          (pluginSetHash.map fun hash =>
            ("mcpg.dev/plugin-set-hash", hash)).toList ++
          (revocationList.map fun list =>
            ("mcpg.dev/revocation-list-hash", list.contentHash)).toList) := by
  unfold podAnnotations
  dsimp only
  rw [gatewayPodAnnotationsMap_items h, lookup_foldl_insert,
    lookup_foldl_insert, List.lookup_nil, Option.or_none, ← lastEntry_append]
  simp only [List.append_assoc]

/-- The scrape settings of a cluster, written with blanks and with two slips;
a gateway moves the port. -/
theorem annotation_of_layers_scrape :
    (podAnnotations
        { metadata := { name := some "edge" }
          spec := { podAnnotations := [("prometheus.io/port", "9090")] } }
        "9f86d081" none none
        (gatewayPodAnnotationsMap (some
          ("prometheus.io/scrape=true, prometheus.io/port=8080 ," ++
            "broken,=novalue")))).lookup
      "prometheus.io/port" = some "9090" := by
  have hblank : Blank "" := by decide
  have hsound : ∀ item ∈ [Item.pair ("prometheus.io/scrape", "true") {},
      .pair ("prometheus.io/port", "8080") { before := " ", after := " " },
      .junk "broken", .keyless "" "novalue"], item.Sound := by
    intro item hitem
    simp only [List.mem_cons, List.not_mem_nil, or_false] at hitem
    rcases hitem with rfl | rfl | rfl | rfl
    · exact
        ⟨{ key := by decide
           equals := by decide
           comma := by decide
           keyEnds := ⟨by rintro _ ⟨⟩; rfl, by rintro _ ⟨⟩; rfl⟩
           valueEnds := ⟨by rintro _ ⟨⟩; rfl, by rintro _ ⟨⟩; rfl⟩ },
          ⟨hblank, hblank, hblank, hblank⟩⟩
    · exact
        ⟨{ key := by decide
           equals := by decide
           comma := by decide
           keyEnds := ⟨by rintro _ ⟨⟩; rfl, by rintro _ ⟨⟩; rfl⟩
           valueEnds := ⟨by rintro _ ⟨⟩; rfl, by rintro _ ⟨⟩; rfl⟩ },
          ⟨by decide, hblank, hblank, by decide⟩⟩
    · exact ⟨by decide, by decide⟩
    · exact ⟨hblank, by decide⟩
  exact annotation_of_layers hsound _ _ none none "prometheus.io/port"

end McpgOperator.Templates
