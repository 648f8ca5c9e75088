import Mathlib.Data.List.Infix
import Mathlib.Data.List.TakeWhile

/-!
# Strings the way the source handles them

The operations of `str` the operator's decisions go through. A string is
taken apart as the list of its characters, which keeps every definition
structurally recursive. Where the source indexes bytes, the separators it
looks for are ASCII, so the positions it finds are character boundaries and
nothing is lost.
-/

namespace McpgOperator.Text

/-- The Unicode property `White_Space`, which `str::trim` strips. -/
def isWhitespace (c : Char) : Bool :=
  let n := c.toNat
  (9 ≤ n && n ≤ 13) || n == 0x20 || n == 0x85 || n == 0xA0 || n == 0x1680 ||
    (0x2000 ≤ n && n ≤ 0x200A) || n == 0x2028 || n == 0x2029 ||
    n == 0x202F || n == 0x205F || n == 0x3000

/-- Both ends stripped of the characters `p` holds of. -/
def trimMatches (p : Char → Bool) (cs : List Char) : List Char :=
  ((cs.dropWhile p).reverse.dropWhile p).reverse

/-- `str::trim`. -/
def trim (s : String) : String :=
  String.ofList (trimMatches isWhitespace s.toList)

/-- `char::to_ascii_lowercase`. -/
def asciiLower (c : Char) : Char :=
  if 'A' ≤ c ∧ c ≤ 'Z' then Char.ofNat (c.toNat + 32) else c

/-- `str::to_ascii_lowercase`. -/
def toAsciiLowercase (s : String) : String :=
  String.ofList (s.toList.map asciiLower)

/-- `str::eq_ignore_ascii_case`. -/
def eqIgnoreAsciiCase (a b : String) : Bool :=
  toAsciiLowercase a == toAsciiLowercase b

/-- `char::is_ascii_hexdigit`. -/
def isAsciiHexdigit (c : Char) : Bool :=
  ('0' ≤ c && c ≤ '9') || ('a' ≤ c && c ≤ 'f') || ('A' ≤ c && c ≤ 'F')

/-- `str::split_once` on a character. -/
def splitOnce (sep : Char) : List Char → Option (List Char × List Char)
  | [] => none
  | c :: cs =>
      if c = sep then some ([], cs)
      else (splitOnce sep cs).map fun (a, b) => (c :: a, b)

/-- The text after the last occurrence of `sep`, with what precedes it
(`sep` included); the whole text when there is none. -/
def splitAfterLast (sep : Char) (cs : List Char) : List Char × List Char :=
  let tail := (cs.reverse.takeWhile (· ≠ sep)).reverse
  (cs.take (cs.length - tail.length), tail)

/-- `str::strip_prefix`. -/
def stripPrefix (pre cs : List Char) : Option (List Char) :=
  if pre.isPrefixOf cs then some (cs.drop pre.length) else none

/-- `str::find` of a non-empty pattern, as the text that follows the first
occurrence. -/
def afterFirst (pat : List Char) : List Char → Option (List Char)
  | [] => none
  | c :: cs =>
      if pat.isPrefixOf (c :: cs) then some ((c :: cs).drop pat.length)
      else afterFirst pat cs

/-- `str::find` of a non-empty pattern, as the text from the first
occurrence on. -/
def fromFirst (pat : List Char) : List Char → Option (List Char)
  | [] => none
  | c :: cs =>
      if pat.isPrefixOf (c :: cs) then some (c :: cs) else fromFirst pat cs

/-- `str::split_whitespace`: the maximal runs of other characters. -/
def splitWhitespace (cs : List Char) : List (List Char) :=
  go [] cs
where
  go (word : List Char) : List Char → List (List Char)
    | [] => if word.isEmpty then [] else [word.reverse]
    | c :: cs =>
        if isWhitespace c then
          if word.isEmpty then go [] cs else word.reverse :: go [] cs
        else go (c :: word) cs

/-- `str::lines`: what ends in a line feed, with or without a carriage return
before it, and what is left at the end. -/
def lines (s : String) : List String :=
  (go [] s.toList).map String.ofList
where go (line : List Char) : List Char → List (List Char)
    | [] => if line.isEmpty then [] else [line.reverse]
    | c :: cs =>
        if c = '\n' then
          (if line.head? = some '\r' then line.tail else line).reverse ::
            go [] cs
        else go (c :: line) cs

/-- `str::replace` of one character by another. -/
def replaceChar (old new : Char) (s : String) : String :=
  String.ofList (s.toList.map fun c => if c = old then new else c)

/-- `s.chars().take(n).collect::<String>()`. -/
def takeChars (n : Nat) (s : String) : String :=
  String.ofList (s.toList.take n)

/-- `s.contains(c)`. -/
def containsChar (c : Char) (s : String) : Bool :=
  s.toList.contains c

/-! ## Taking apart -/

theorem splitOnce_some {sep : Char} {cs a b : List Char}
    (h : splitOnce sep cs = some (a, b)) :
    cs = a ++ sep :: b ∧ sep ∉ a := by
  induction cs generalizing a b with
  | nil => cases h
  | cons c cs ih =>
      unfold splitOnce at h
      split at h
      · next heq =>
          cases h
          exact ⟨congrArg (· :: cs) heq, by simp⟩
      · next hne =>
          obtain ⟨⟨a', b'⟩, hrest, hpair⟩ := Option.map_eq_some_iff.mp h
          cases hpair
          obtain ⟨rfl, hnot⟩ := ih hrest
          refine ⟨rfl, fun hmem => ?_⟩
          rcases List.mem_cons.mp hmem with heq | hmem
          · exact hne heq.symm
          · exact hnot hmem

theorem splitOnce_eq_none {sep : Char} {cs : List Char} :
    splitOnce sep cs = none ↔ sep ∉ cs := by
  induction cs with
  | nil => simp [splitOnce]
  | cons c cs ih =>
      unfold splitOnce
      by_cases heq : c = sep
      · simp [heq]
      · rw [if_neg heq, Option.map_eq_none_iff, ih, List.mem_cons, not_or]
        exact (and_iff_right fun hc => heq hc.symm).symm

theorem splitOnce_append {sep : Char} {a : List Char} (h : sep ∉ a)
    (b : List Char) : splitOnce sep (a ++ sep :: b) = some (a, b) := by
  induction a with
  | nil => exact if_pos rfl
  | cons c cs ih =>
      obtain ⟨hne, hcs⟩ := not_or.mp (mt List.mem_cons.mpr h)
      rw [List.cons_append, splitOnce, if_neg (Ne.symm hne), ih hcs]
      rfl

theorem splitAfterLast_spec (sep : Char) (cs : List Char) :
    (splitAfterLast sep cs).1 ++ (splitAfterLast sep cs).2 = cs ∧
      sep ∉ (splitAfterLast sep cs).2 := by
  unfold splitAfterLast
  dsimp only
  have hsuffix : (cs.reverse.takeWhile (· ≠ sep)).reverse <:+ cs := by
    rw [← List.reverse_prefix, List.reverse_reverse]
    exact List.takeWhile_prefix _
  refine ⟨?_, fun hmem => ?_⟩
  · obtain ⟨front, hfront⟩ := hsuffix
    generalize (cs.reverse.takeWhile (· ≠ sep)).reverse = tail at hfront
    subst hfront
    simp
  · have hne := List.mem_takeWhile_imp (List.mem_reverse.mp hmem)
    simp at hne

theorem splitAfterLast_fst (sep : Char) (cs : List Char) :
    (splitAfterLast sep cs).1 = (cs.reverse.dropWhile (· ≠ sep)).reverse := by
  have hparts : (cs.reverse.dropWhile (· ≠ sep)).reverse ++
      (cs.reverse.takeWhile (· ≠ sep)).reverse = cs := by
    rw [← List.reverse_append, List.takeWhile_append_dropWhile,
      List.reverse_reverse]
  have hspec := (splitAfterLast_spec sep cs).1
  exact List.append_cancel_right (hspec.trans hparts.symm)

/-- What follows the last `sep` may grow on its right. -/
theorem splitAfterLast_append {sep : Char} (front : List Char)
    {tail : List Char} (h : sep ∉ tail) :
    (splitAfterLast sep (front ++ tail)).1 = (splitAfterLast sep front).1 ∧
      (splitAfterLast sep (front ++ tail)).2 =
        (splitAfterLast sep front).2 ++ tail := by
  have hall : ∀ c ∈ tail.reverse, decide (c ≠ sep) = true := by
    intro c hc
    refine decide_eq_true fun heq => h ?_
    exact heq ▸ List.mem_reverse.mp hc
  refine ⟨?_, ?_⟩
  · rw [splitAfterLast_fst, splitAfterLast_fst, List.reverse_append,
      List.dropWhile_append_of_pos hall]
  · unfold splitAfterLast
    dsimp only
    rw [List.reverse_append, List.takeWhile_append_of_pos hall,
      List.reverse_append, List.reverse_reverse]

/-- What precedes the rest after the last `sep` is empty or ends in `sep`. -/
theorem splitAfterLast_front (sep : Char) (cs : List Char) :
    splitAfterLast sep (splitAfterLast sep cs).1 =
      ((splitAfterLast sep cs).1, []) := by
  have hnone : (cs.reverse.dropWhile (· ≠ sep)).takeWhile (· ≠ sep) = [] := by
    have hhead := List.head?_dropWhile_not (fun c => decide (c ≠ sep))
      cs.reverse
    cases hrest : cs.reverse.dropWhile (· ≠ sep) with
    | nil => rfl
    | cons c rest =>
        rw [hrest] at hhead
        exact List.takeWhile_cons_of_neg (Bool.eq_false_iff.mp hhead)
  have htail : (splitAfterLast sep (splitAfterLast sep cs).1).2 = [] := by
    rw [splitAfterLast_fst]
    unfold splitAfterLast
    dsimp only
    rw [List.reverse_reverse, hnone, List.reverse_nil]
  have hspec := (splitAfterLast_spec sep (splitAfterLast sep cs).1).1
  rw [htail, List.append_nil] at hspec
  exact Prod.ext hspec htail

theorem splitAfterLast_cons_suffix {sep : Char} (front tail : List Char) :
    (splitAfterLast sep (front ++ sep :: tail)).2 <:+ tail := by
  obtain ⟨hparts, hfree⟩ := splitAfterLast_spec sep (front ++ sep :: tail)
  have hlast : (splitAfterLast sep (front ++ sep :: tail)).2 <:+
      front ++ sep :: tail := ⟨_, hparts⟩
  rcases List.suffix_or_suffix_of_suffix hlast
      (List.suffix_append front (sep :: tail)) with hshort | hlong
  · rcases List.suffix_cons_iff.mp hshort with heq | hsuffix
    · rw [heq] at hfree
      exact absurd List.mem_cons_self hfree
    · exact hsuffix
  · exact absurd (hlong.subset List.mem_cons_self) hfree

/-- What stands before some `sep` does not matter for what follows the
last. -/
theorem splitAfterLast_cons {sep : Char} (front tail : List Char) :
    (splitAfterLast sep (front ++ sep :: tail)).2 =
      (splitAfterLast sep tail).2 := by
  unfold splitAfterLast
  dsimp only
  rw [List.reverse_append, List.reverse_cons, List.append_assoc,
    List.singleton_append, List.takeWhile_append]
  split
  · next hall =>
    rw [List.takeWhile_cons_of_neg (by simp), List.append_nil]
    have hwhole := (List.takeWhile_prefix (p := (· ≠ sep))
      (l := tail.reverse)).eq_of_length hall
    rw [hwhole]
  · rfl

theorem eq_append_of_stripPrefix {pre cs rest : List Char}
    (h : stripPrefix pre cs = some rest) : cs = pre ++ rest := by
  unfold stripPrefix at h
  split at h
  · next hpre =>
      cases h
      obtain ⟨rest, rfl⟩ := List.isPrefixOf_iff_prefix.mp hpre
      rw [List.drop_left]
  · cases h

theorem stripPrefix_append (pre rest : List Char) :
    stripPrefix pre (pre ++ rest) = some rest := by
  unfold stripPrefix
  rw [if_pos (List.isPrefixOf_iff_prefix.mpr (List.prefix_append _ _)),
    List.drop_left]

/-- `str::contains`, as it is read off `fromFirst`. -/
theorem exists_of_fromFirst {pat cs : List Char}
    (h : (fromFirst pat cs).isSome = true) :
    ∃ before after, cs = before ++ pat ++ after := by
  induction cs with
  | nil => cases h
  | cons c cs ih =>
      unfold fromFirst at h
      split at h
      · next hpre =>
          obtain ⟨after, hafter⟩ := List.isPrefixOf_iff_prefix.mp hpre
          exact ⟨[], after, hafter.symm⟩
      · obtain ⟨before, after, rfl⟩ := ih h
        exact ⟨c :: before, after, rfl⟩

/-! ## Searching -/

/-- A text without `sep` that begins a longer one stops before its `sep`. -/
theorem prefix_append_cons {pat a b : List Char} {sep : Char}
    (h : sep ∉ pat) : pat <+: a ++ sep :: b ↔ pat <+: a := by
  refine ⟨fun hpre => ?_, fun hpre => hpre.trans (List.prefix_append _ _)⟩
  rcases List.prefix_or_prefix_of_prefix hpre
      (List.prefix_append a (sep :: b)) with hshort | hlong
  · exact hshort
  · obtain ⟨rest, rfl⟩ := hlong
    cases rest with
    | nil => exact (List.append_nil a).symm ▸ List.prefix_refl a
    | cons c rest =>
        have hrest := (List.prefix_append_right_inj a).mp hpre
        obtain ⟨rfl, -⟩ := List.cons_prefix_cons.mp hrest
        exact absurd (List.mem_append_right a List.mem_cons_self) h

theorem fromFirst_of_front {pat cs : List Char} (hne : pat ≠ [])
    (h : pat <+: cs) : fromFirst pat cs = some cs := by
  cases cs with
  | nil => exact absurd (List.prefix_nil.mp h) hne
  | cons c cs => exact if_pos (List.isPrefixOf_iff_prefix.mpr h)

theorem prefix_of_fromFirst {pat cs tail : List Char}
    (h : fromFirst pat cs = some tail) : pat <+: tail := by
  induction cs with
  | nil => cases h
  | cons c cs ih =>
      rw [fromFirst] at h
      by_cases hpre : pat.isPrefixOf (c :: cs) = true
      · rw [if_pos hpre] at h
        cases h
        exact List.isPrefixOf_iff_prefix.mp hpre
      · rw [if_neg hpre] at h
        exact ih h

theorem suffix_of_fromFirst {pat cs tail : List Char}
    (h : fromFirst pat cs = some tail) : tail <:+ cs := by
  induction cs with
  | nil => cases h
  | cons c cs ih =>
      rw [fromFirst] at h
      by_cases hpre : pat.isPrefixOf (c :: cs) = true
      · rw [if_pos hpre] at h
        cases h
        exact List.suffix_refl _
      · rw [if_neg hpre] at h
        exact (ih h).trans (List.suffix_cons c cs)

/-- The first occurrence stays the first when the text goes on. -/
theorem fromFirst_append_right {pat cs tail : List Char}
    (h : fromFirst pat cs = some tail) (more : List Char) :
    fromFirst pat (cs ++ more) = some (tail ++ more) := by
  induction cs with
  | nil => cases h
  | cons c cs ih =>
      rw [fromFirst] at h
      by_cases hpre : pat.isPrefixOf (c :: cs) = true
      · rw [if_pos hpre] at h
        cases h
        refine if_pos (List.isPrefixOf_iff_prefix.mpr ?_)
        exact (List.isPrefixOf_iff_prefix.mp hpre).trans
          (List.prefix_append _ _)
      · rw [if_neg hpre] at h
        have hlength : pat.length ≤ (c :: cs).length := by
          have hpat := (prefix_of_fromFirst h).length_le
          have htail := (suffix_of_fromFirst h).length_le
          rw [List.length_cons]
          omega
        have hmore : ¬ pat.isPrefixOf (c :: (cs ++ more)) = true := by
          intro hpre'
          refine hpre (List.isPrefixOf_iff_prefix.mpr ?_)
          exact List.prefix_of_prefix_length_le
            (List.isPrefixOf_iff_prefix.mp hpre')
            (List.prefix_append (c :: cs) more) hlength
        rw [List.cons_append, fromFirst, if_neg hmore]
        exact ih h

/-- A text without `sep` stands before the `sep` or after it. -/
theorem fromFirst_append {pat : List Char} {sep : Char} (hne : pat ≠ [])
    (h : sep ∉ pat) (a b : List Char) :
    fromFirst pat (a ++ sep :: b) =
      match fromFirst pat a with
      | some tail => some (tail ++ sep :: b)
      | none => fromFirst pat b := by
  induction a with
  | nil =>
      have hnot : ¬ pat.isPrefixOf (sep :: b) = true := by
        rw [List.isPrefixOf_iff_prefix, ← List.nil_append (sep :: b),
          prefix_append_cons h]
        exact fun hpre => hne (List.prefix_nil.mp hpre)
      exact if_neg hnot
  | cons c cs ih =>
      have hsame : pat.isPrefixOf (c :: cs ++ sep :: b) =
          pat.isPrefixOf (c :: cs) := by
        rw [Bool.eq_iff_iff, List.isPrefixOf_iff_prefix,
          List.isPrefixOf_iff_prefix, prefix_append_cons h]
      rw [List.cons_append, fromFirst, ← List.cons_append, hsame, fromFirst]
      by_cases hpre : pat.isPrefixOf (c :: cs) = true
      · rw [if_pos hpre, if_pos hpre]
      · rw [if_neg hpre, if_neg hpre]
        exact ih

theorem fromFirst_eq_none {pat cs : List Char} (hne : pat ≠ []) :
    fromFirst pat cs = none ↔ ¬ pat <:+: cs := by
  induction cs with
  | nil => simp [fromFirst, hne]
  | cons c cs ih =>
      rw [fromFirst, List.infix_cons_iff, not_or,
        ← List.isPrefixOf_iff_prefix]
      by_cases hpre : pat.isPrefixOf (c :: cs) = true
      · simp [hpre]
      · rw [if_neg hpre, ih]
        exact (and_iff_right hpre).symm

/-- Nothing begins where the first character of `pat` does not stand. -/
theorem fromFirst_skip {p : Char} {pat a : List Char} (h : p ∉ a)
    (b : List Char) :
    fromFirst (p :: pat) (a ++ b) = fromFirst (p :: pat) b := by
  induction a with
  | nil => rfl
  | cons c cs ih =>
      obtain ⟨hne, hcs⟩ := not_or.mp (mt List.mem_cons.mpr h)
      have hnot : ¬ (p :: pat).isPrefixOf (c :: (cs ++ b)) = true := by
        rw [List.isPrefixOf_iff_prefix, List.cons_prefix_cons]
        exact fun hpre => hne hpre.1
      rw [List.cons_append, fromFirst, if_neg hnot]
      exact ih hcs

theorem afterFirst_eq (pat cs : List Char) :
    afterFirst pat cs = (fromFirst pat cs).map (·.drop pat.length) := by
  induction cs with
  | nil => rfl
  | cons c cs ih =>
      rw [afterFirst, fromFirst, ih]
      split <;> rfl

/-! ## Words -/

theorem splitWhitespace_go_append {c : Char} (hc : isWhitespace c = true)
    (a b word : List Char) :
    splitWhitespace.go word (a ++ c :: b) =
      splitWhitespace.go word a ++ splitWhitespace.go [] b := by
  induction a generalizing word with
  | nil =>
      simp only [List.nil_append, splitWhitespace.go, if_pos hc]
      cases word.isEmpty <;> rfl
  | cons d ds ih =>
      rw [List.cons_append, splitWhitespace.go, splitWhitespace.go]
      by_cases hd : isWhitespace d = true
      · rw [if_pos hd, if_pos hd, ih]
        cases word.isEmpty <;> rfl
      · rw [if_neg hd, if_neg hd]
        exact ih (d :: word)

/-- White space ends a word. -/
theorem splitWhitespace_append {c : Char} (hc : isWhitespace c = true)
    (a b : List Char) :
    splitWhitespace (a ++ c :: b) = splitWhitespace a ++ splitWhitespace b :=
  splitWhitespace_go_append hc a b []

theorem splitWhitespace_go_word {cs : List Char}
    (h : ∀ c ∈ cs, isWhitespace c = false) {word : List Char}
    (hne : word ≠ []) : splitWhitespace.go word cs = [word.reverse ++ cs] := by
  induction cs generalizing word with
  | nil =>
      have hword : word.isEmpty = false := by simpa using hne
      rw [splitWhitespace.go, hword, List.append_nil]
      rfl
  | cons c cs ih =>
      have hc := h c List.mem_cons_self
      rw [splitWhitespace.go, hc, if_neg Bool.false_ne_true,
        ih (fun d hd => h d (List.mem_cons_of_mem c hd))
          (List.cons_ne_nil c word),
        List.reverse_cons, List.append_assoc]
      rfl

theorem splitWhitespace_word {cs : List Char} (hne : cs ≠ [])
    (h : ∀ c ∈ cs, isWhitespace c = false) : splitWhitespace cs = [cs] := by
  cases cs with
  | nil => exact absurd rfl hne
  | cons c cs =>
      rw [splitWhitespace, splitWhitespace.go, h c List.mem_cons_self,
        if_neg Bool.false_ne_true]
      exact splitWhitespace_go_word
        (fun d hd => h d (List.mem_cons_of_mem c hd)) (List.cons_ne_nil c [])

/-! ## Lines -/

theorem lines_go_subset {line cs l : List Char}
    (h : l ∈ lines.go line cs) : l ⊆ line ++ cs := by
  induction cs generalizing line with
  | nil =>
      rw [lines.go] at h
      cases hempty : line.isEmpty with
      | true =>
          rw [hempty] at h
          exact absurd h List.not_mem_nil
      | false =>
          rw [hempty] at h
          rw [List.mem_singleton.mp h, List.append_nil]
          exact fun c hc => List.mem_reverse.mp hc
  | cons c cs ih =>
      rw [lines.go] at h
      by_cases hc : c = '\n'
      · rw [if_pos hc] at h
        rcases List.mem_cons.mp h with rfl | h
        · intro d hd
          have hd := List.mem_reverse.mp hd
          refine List.mem_append_left _ ?_
          split at hd
          · exact List.mem_of_mem_tail hd
          · exact hd
        · intro d hd
          exact List.mem_append_right _ (List.mem_cons_of_mem c (ih h hd))
      · rw [if_neg hc] at h
        intro d hd
        have hmem := ih h hd
        rw [List.cons_append, List.mem_cons, List.mem_append] at hmem
        rw [List.mem_append, List.mem_cons]
        tauto

theorem lines_go_unbroken {line cs : List Char} (h : '\n' ∉ cs)
    (hne : line.reverse ++ cs ≠ []) :
    lines.go line cs = [line.reverse ++ cs] := by
  induction cs generalizing line with
  | nil =>
      have hline : line.isEmpty = false := by simpa using hne
      rw [lines.go, hline, List.append_nil]
      rfl
  | cons c cs ih =>
      obtain ⟨hc, hcs⟩ := not_or.mp (mt List.mem_cons.mpr h)
      rw [lines.go, if_neg (Ne.symm hc), ih hcs (by simp),
        List.reverse_cons, List.append_assoc]
      rfl

/-- A text without line feeds is its only line. -/
theorem lines_of_unbroken {cs : List Char} (hne : cs ≠ [])
    (h : '\n' ∉ cs) : lines (String.ofList cs) = [String.ofList cs] := by
  have hgo : lines.go [] cs = [cs] := lines_go_unbroken h hne
  rw [lines, String.toList_ofList, hgo]
  rfl

/-- A line has no characters but the text's. -/
theorem subset_of_mem_lines {s line : String} (h : line ∈ lines s) :
    line.toList ⊆ s.toList := by
  obtain ⟨l, hl, rfl⟩ := List.mem_map.mp h
  rw [String.toList_ofList]
  exact lines_go_subset hl

/-! ## Trimming -/

theorem dropWhile_eq_self {p : Char → Bool} {cs : List Char}
    (h : ∀ c ∈ cs, p c = false) : cs.dropWhile p = cs := by
  cases cs with
  | nil => rfl
  | cons c cs => simp [h c List.mem_cons_self]

theorem trimMatches_eq_self {p : Char → Bool} {cs : List Char}
    (h : ∀ c ∈ cs, p c = false) : trimMatches p cs = cs := by
  have hrev : ∀ c ∈ cs.reverse, p c = false := by simpa using h
  rw [trimMatches, dropWhile_eq_self h, dropWhile_eq_self hrev,
    List.reverse_reverse]

/-- What is trimmed stands before and after what is left. -/
theorem exists_trimMatches (p : Char → Bool) (cs : List Char) :
    ∃ before after, cs = before ++ (trimMatches p cs ++ after) ∧
      (∀ c ∈ before, p c = true) ∧ ∀ c ∈ after, p c = true := by
  refine ⟨cs.takeWhile p, ((cs.dropWhile p).reverse.takeWhile p).reverse,
    ?_, fun c hc => List.mem_takeWhile_imp hc, fun c hc => ?_⟩
  · unfold trimMatches
    rw [← List.reverse_append, List.takeWhile_append_dropWhile,
      List.reverse_reverse, List.takeWhile_append_dropWhile]
  · exact List.mem_takeWhile_imp (List.mem_reverse.mp hc)

theorem trimMatches_append {p : Char → Bool} {before mid after : List Char}
    (hbefore : ∀ c ∈ before, p c = true) (hmid : ∀ c ∈ mid, p c = false)
    (hafter : ∀ c ∈ after, p c = true) :
    trimMatches p (before ++ (mid ++ after)) = mid := by
  have hstart : (mid ++ after).dropWhile p = mid ++ after ∨
      mid = [] ∧ (mid ++ after).dropWhile p = [] := by
    cases mid with
    | nil => exact .inr ⟨rfl, List.dropWhile_eq_nil_iff.mpr hafter⟩
    | cons c mid =>
        have hc := hmid c List.mem_cons_self
        exact .inl (List.dropWhile_cons_of_neg (by simp [hc]))
  unfold trimMatches
  rw [List.dropWhile_append_of_pos hbefore]
  rcases hstart with hkept | ⟨rfl, hgone⟩
  · have hend : ∀ c ∈ after.reverse, p c = true := by simpa using hafter
    have hrev : ∀ c ∈ mid.reverse, p c = false := by simpa using hmid
    rw [hkept, List.reverse_append, List.dropWhile_append_of_pos hend,
      dropWhile_eq_self hrev, List.reverse_reverse]
  · rw [hgone]
    rfl

/-- What is trimmed off may as well not be there. -/
theorem trimMatches_append_left {p : Char → Bool} {before : List Char}
    (h : ∀ c ∈ before, p c = true) (cs : List Char) :
    trimMatches p (before ++ cs) = trimMatches p cs := by
  unfold trimMatches
  rw [List.dropWhile_append_of_pos h]

theorem trimMatches_append_right {p : Char → Bool} {after : List Char}
    (cs : List Char) (h : ∀ c ∈ after, p c = true) :
    trimMatches p (cs ++ after) = trimMatches p cs := by
  have hend : ∀ c ∈ after.reverse, p c = true := by simpa using h
  unfold trimMatches
  rw [List.dropWhile_append]
  split
  · next hempty =>
      rw [List.isEmpty_iff.mp hempty, List.dropWhile_eq_nil_iff.mpr h]
  · rw [List.reverse_append, List.dropWhile_append_of_pos hend]

theorem trim_eq_empty {s : String} :
    trim s = "" ↔ ∀ c ∈ s.toList, isWhitespace c = true := by
  rw [← String.toList_inj, trim, String.toList_ofList]
  constructor
  · intro h c hc
    obtain ⟨before, after, hparts, hbefore, hafter⟩ :=
      exists_trimMatches isWhitespace s.toList
    rw [h] at hparts
    rw [hparts] at hc
    rcases List.mem_append.mp hc with hc | hc
    · exact hbefore c hc
    · exact hafter c hc
  · intro h
    have htrim : trimMatches isWhitespace (s.toList ++ ([] ++ [])) = [] :=
      trimMatches_append h (by simp) (by simp)
    rwa [List.append_nil, List.append_nil] at htrim

theorem trim_eq_self {s : String}
    (h : ∀ c ∈ s.toList, isWhitespace c = false) : trim s = s := by
  rw [trim, trimMatches_eq_self h, String.ofList_toList]

theorem not_isWhitespace_of_all {cs : List Char}
    (h : (cs.all fun c => !isWhitespace c) = true) :
    ∀ c ∈ cs, isWhitespace c = false := by
  intro c hc
  simpa using List.all_eq_true.mp h c hc

theorem not_isWhitespace_of_digit {c : Char} (h : '0' ≤ c ∧ c ≤ '9') :
    isWhitespace c = false := by
  have hrange : 48 ≤ c.toNat ∧ c.toNat ≤ 57 := h
  simp only [isWhitespace, Bool.or_eq_false_iff, Bool.and_eq_false_iff,
    beq_eq_false_iff_ne, decide_eq_false_iff_not]
  omega

theorem not_isWhitespace_of_hexdigit {c : Char}
    (h : isAsciiHexdigit c = true) : isWhitespace c = false := by
  have hrange : 48 ≤ c.toNat ∧ c.toNat ≤ 102 := by
    simp only [isAsciiHexdigit, Bool.or_eq_true, Bool.and_eq_true,
      decide_eq_true_eq, Char.le_def, UInt32.le_iff_toNat_le] at h
    have h0 : '0'.val.toNat = 48 := rfl
    have h9 : '9'.val.toNat = 57 := rfl
    have ha : 'a'.val.toNat = 97 := rfl
    have hf : 'f'.val.toNat = 102 := rfl
    have hA : 'A'.val.toNat = 65 := rfl
    have hF : 'F'.val.toNat = 70 := rfl
    have hc : c.val.toNat = c.toNat := rfl
    omega
  simp only [isWhitespace, Bool.or_eq_false_iff, Bool.and_eq_false_iff,
    beq_eq_false_iff_ne, decide_eq_false_iff_not]
  omega

/-- There is nothing to trim from hex digits. -/
theorem trim_eq_self_of_hexdigits {s : String}
    (h : s.toList.all isAsciiHexdigit = true) : trim s = s := by
  refine trim_eq_self fun c hc => not_isWhitespace_of_hexdigit ?_
  exact List.all_eq_true.mp h c hc

theorem countP_dropWhile (p : Char → Bool) (cs : List Char) :
    (cs.dropWhile p).countP (fun c => !p c) = cs.countP (fun c => !p c) := by
  induction cs with
  | nil => rfl
  | cons c cs ih =>
      cases hc : p c with
      | true =>
          rw [List.dropWhile_cons_of_pos hc, ih, List.countP_cons_of_neg]
          simp [hc]
      | false =>
          rw [List.dropWhile_cons_of_neg (by simp [hc])]

/-- Trimming takes away nothing but what it is told to. -/
theorem countP_trimMatches (p : Char → Bool) (cs : List Char) :
    (trimMatches p cs).countP (fun c => !p c) =
      cs.countP (fun c => !p c) := by
  rw [trimMatches, List.countP_reverse, countP_dropWhile,
    List.countP_reverse, countP_dropWhile]

theorem countP_trim (s : String) :
    (trim s).toList.countP (fun c => !isWhitespace c) =
      s.toList.countP (fun c => !isWhitespace c) := by
  unfold trim
  rw [String.toList_ofList]
  exact countP_trimMatches isWhitespace s.toList

/-- What is left of a text once is left of it twice, or nothing is. -/
theorem trim_trim_eq_empty {s : String} :
    trim (trim s) = "" ↔ trim s = "" := by
  have hblank : ∀ t : String, trim t = "" ↔
      t.toList.countP (fun c => !isWhitespace c) = 0 := by
    intro t
    rw [trim_eq_empty, List.countP_eq_zero]
    simp
  rw [hblank, hblank, countP_trim]

/-! ## Letters and bytes -/

theorem asciiLower_of_upper {c : Char} (h : 'A' ≤ c ∧ c ≤ 'Z') :
    (asciiLower c).toNat = c.toNat + 32 := by
  have hrange : 65 ≤ c.toNat ∧ c.toNat ≤ 90 := h
  have hvalid : (c.toNat + 32).isValidChar := .inl (by omega)
  have hofNat : Char.ofNat (c.toNat + 32) =
      Char.ofNatAux (c.toNat + 32) hvalid := dif_pos hvalid
  unfold asciiLower
  rw [if_pos h, hofNat]
  rfl

/-- A text of ASCII characters has a byte for each. -/
theorem utf8ByteSize_of_ascii {s : String}
    (h : ∀ c ∈ s.toList, c.toNat ≤ 127) :
    s.utf8ByteSize = s.toList.length := by
  have hsize : ∀ cs : List Char, (∀ c ∈ cs, c.toNat ≤ 127) →
      (String.ofList cs).utf8ByteSize = cs.length := by
    intro cs hcs
    induction cs with
    | nil => rfl
    | cons c cs ih =>
        obtain ⟨hc, hcs⟩ := List.forall_mem_cons.mp hcs
        have hval : c.val.toNat ≤ (127 : UInt32).toNat := hc
        have hone : c.utf8Size = 1 := if_pos (UInt32.le_iff_toNat_le.mpr hval)
        have hcons : String.ofList (c :: cs) =
            String.singleton c ++ String.ofList cs := by
          rw [← String.toList_inj]
          simp
        rw [hcons, String.utf8ByteSize_append,
          String.utf8ByteSize_singleton, hone, ih hcs, List.length_cons]
        omega
  have hs := hsize s.toList h
  rwa [String.ofList_toList] at hs

end McpgOperator.Text
