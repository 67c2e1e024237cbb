import TelemetryRelay.Proofs.Text.Pieces
import TelemetryRelay.SourceScan

/-!
# What a scan reports

A scan reports a rule in a line exactly if the line stands before the first test section, is no
comment and has a pattern of the rule in its code.  So it says nothing about what stands behind
that section or in comments, and whole lines are scanned on their own.
-/

namespace TelemetryRelay.SourceScan

open Text

variable {rules : List Rule} {a t rest line : String} {cs x : List Char}
  {ls before behind : List String} {n : Nat} {f : Finding}

/-! ## Lines -/

/-- A line without the carriage return that ends it. -/
def withoutReturn (piece : List Char) : List Char :=
  if piece.getLast? = some '\r' then piece.dropLast else piece

/-- A text of whole lines, each with its end. -/
def Closed (content : String) : Prop := ∀ c ∈ content.toList.getLast?, c = '\n'

/-- What may stand behind a line: nothing, or its end and more. -/
def Behind (rest : String) : Prop := ∀ c ∈ rest.toList.head?, c = '\n'

theorem lines_append_feed {content : String} {cs rest : List Char}
    (h : content.toList = cs ++ '\n' :: rest) :
    lines content = ((splitAt '\n' cs).map withoutReturn).map String.ofList ++
      lines (String.ofList rest) := by
  have hne := splitAt_ne_nil '\n' rest
  have hlast : (splitAt '\n' cs ++ splitAt '\n' rest).getLast? = (splitAt '\n' rest).getLast? := by
    rw [List.getLast?_append_of_ne_nil _ hne]
  simp only [lines, h, String.toList_ofList, splitAt_append, hlast,
    List.dropLast_append_of_ne_nil hne, List.map_append, List.append_assoc]
  rfl

theorem lines_empty : lines "" = [] := rfl

/-- Whole lines are split on their own. -/
theorem lines_append (h : Closed a) (b : String) : lines (a ++ b) = lines a ++ lines b := by
  rcases List.eq_nil_or_concat a.toList with hempty | ⟨cs, c, hcs⟩
  · obtain rfl : a = "" := by simpa using hempty
    simp [lines_empty]
  · obtain rfl : c = '\n' := h c (by simp [hcs])
    have ha : a.toList = cs ++ '\n' :: [] := by simpa using hcs
    have hab : (a ++ b).toList = cs ++ '\n' :: b.toList := by simp [ha]
    rw [lines_append_feed ha, lines_append_feed hab, String.ofList_toList]
    simp [lines_empty]

/-- A line that is not closed stands as it is. -/
theorem lines_of_open (hfeed : '\n' ∉ t.toList) (hne : t ≠ "") : lines t = [t] := by
  have hpieces : splitAt '\n' t.toList = [t.toList] := splitAt_of_not_mem hfeed
  simp [lines, hpieces, hne]

/-- What a line becomes where it ends: nothing changes if the text ends with it. -/
def IsEnding (ending : List Char → List Char) : Prop := ending = id ∨ ending = withoutReturn

/-- What becomes of a line, and which lines come after it, hangs on what stands behind it. -/
theorem lines_line (h : Behind rest) : ∃ ending behind, IsEnding ending ∧
    ∀ t : String, '\n' ∉ t.toList → t ≠ "" →
      lines (t ++ rest) = String.ofList (ending t.toList) :: behind := by
  cases hrest : rest.toList with
  | nil =>
    obtain rfl : rest = "" := by simpa using hrest
    refine ⟨id, [], .inl rfl, fun t hfeed hne => ?_⟩
    simp [lines_of_open hfeed hne]
  | cons c cs =>
    obtain rfl : c = '\n' := h c (by simp [hrest])
    refine ⟨withoutReturn, lines (String.ofList cs), .inr rfl, fun t hfeed _ => ?_⟩
    have ht : (t ++ rest).toList = t.toList ++ '\n' :: cs := by simp [hrest]
    rw [lines_append_feed ht, splitAt_of_not_mem hfeed]
    rfl

/-! ## What a scan sees of a line -/

/-- Whether a line is a comment as a whole. -/
def isComment (line : String) : Bool := comment.toList.isPrefixOf (trimmed line).toList

theorem trimmed_withoutReturn (piece : List Char) :
    trimmed (String.ofList (withoutReturn piece)) = trimmed (String.ofList piece) := by
  unfold withoutReturn
  split
  · rename_i hreturn
    obtain ⟨cs, rfl⟩ := List.getLast?_eq_some_iff.mp hreturn
    have hblank : isBlank '\r' = true := by decide
    simp [trimmed, trimList_concat hblank]
  · rfl

theorem withoutReturn_append (hne : x ≠ []) :
    withoutReturn (cs ++ x) = cs ++ withoutReturn x := by
  simp only [withoutReturn, List.getLast?_append_of_ne_nil _ hne,
    List.dropLast_append_of_ne_nil hne]
  split <;> rfl

/-- A comment in a line keeps its slashes when the line loses its return. -/
theorem withoutReturn_comment (code x : List Char) :
    withoutReturn (code ++ comment.toList ++ x) = code ++ comment.toList ++ withoutReturn x := by
  cases x with
  | nil =>
    have hslashes : withoutReturn comment.toList = comment.toList := by decide
    have hnil : withoutReturn [] = [] := rfl
    rw [List.append_nil, hnil, List.append_nil, withoutReturn_append (by decide), hslashes]
  | cons c x => exact withoutReturn_append (by simp)

variable {ending : List Char → List Char}

theorem trimmed_ending (h : IsEnding ending) (t : String) :
    trimmed (String.ofList (ending t.toList)) = trimmed t := by
  rcases h with rfl | rfl
  · simp
  · rw [trimmed_withoutReturn, String.ofList_toList]

theorem ending_comment (h : IsEnding ending) (code said : String) :
    String.ofList (ending (code ++ comment ++ said).toList) =
      String.ofList (code.toList ++ comment.toList ++ ending said.toList) := by
  rw [String.toList_append, String.toList_append]
  rcases h with rfl | rfl
  · rfl
  · rw [withoutReturn_comment]

theorem toList_comment : comment.toList = ['/', '/'] := by decide

theorem trimmed_comment (code x : List Char) :
    (trimmed (String.ofList (code ++ comment.toList ++ x))).toList =
      code.dropWhile isBlank ++ comment.toList ++ x.rdropWhile isBlank := by
  have hslash : isBlank '/' = false := by decide
  have hslashes : code ++ comment.toList ++ x = (code ++ '/' :: []) ++ '/' :: x := by
    simp [toList_comment]
  rw [trimmed, String.toList_ofList, String.toList_ofList, hslashes, trimList_append_cons hslash,
    dropWhile_append_cons hslash]
  simp [toList_comment]

/-- A pattern without a character of the text ends in front of it. -/
theorem isPrefix_append_cons {c : Char} {pattern : List Char} (h : c ∉ pattern) :
    pattern <+: cs ++ c :: x ↔ pattern <+: cs := by
  constructor
  · intro hstart
    by_cases hlength : pattern.length ≤ cs.length
    · exact List.prefix_of_prefix_length_le hstart (List.prefix_append cs _) hlength
    · have hpast : cs ++ [c] <+: cs ++ c :: x := ⟨x, by simp⟩
      have hmem := (List.prefix_of_prefix_length_le hpast hstart (by simp; omega)).subset
      exact absurd (hmem (by simp)) h
  · exact fun hstart => hstart.trans (List.prefix_append cs _)

/-- Whether a line opens the tests is said by what stands in front of its comment. -/
theorem opensTests_comment (code x : List Char) :
    opensTests (String.ofList (code ++ comment.toList ++ x)) =
      testSection.toList.isPrefixOf (code.dropWhile isBlank) := by
  have hslash : '/' ∉ testSection.toList := by decide
  rw [Bool.eq_iff_iff, opensTests, trimmed_comment, List.isPrefixOf_iff_prefix,
    List.isPrefixOf_iff_prefix, List.append_assoc]
  exact isPrefix_append_cons hslash

theorem isComment_comment (h : ¬ comment.toList <:+: code ++ comment.toList.dropLast)
    (x : List Char) : isComment (String.ofList (code ++ comment.toList ++ x)) =
      (code.dropWhile isBlank).isEmpty := by
  rw [isComment, trimmed_comment]
  have hlater : ¬ comment.toList <:+: code.dropWhile isBlank ++ comment.toList.dropLast :=
    fun hoccurs => h (hoccurs.trans
      (List.suffix_append_self_iff.mpr (List.dropWhile_suffix isBlank)).isInfix)
  cases hcode : code.dropWhile isBlank with
  | nil => simp
  | cons c rest =>
    rw [hcode, List.cons_append] at hlater
    have hstart := not_isPrefix_cons hlater (x.rdropWhile isBlank)
    rw [List.cons_append, List.cons_append, List.isEmpty_cons, ← Bool.not_eq_true,
      List.isPrefixOf_iff_prefix]
    exact hstart

theorem codePart_comment (h : ¬ comment.toList <:+: code ++ comment.toList.dropLast)
    (x : List Char) : codePart (String.ofList (code ++ comment.toList ++ x)) = code := by
  rw [codePart, String.toList_ofList]
  exact before_append (by decide) h x

/-! ## Scanning from a line on -/

/-- Scans lines of which the first has a number. -/
def scanFrom (rules : List Rule) : Nat → List String → List Finding
  | _, [] => []
  | number, line :: ls =>
    if opensTests line then [] else scanLine rules number line ++ scanFrom rules (number + 1) ls

theorem scanLines_eq (rules : List Rule) (ls : List String) :
    scanLines rules ls = scanFrom rules 1 ls := by
  rw [scanLines]
  generalize 1 = number
  induction ls generalizing number with
  | nil => rfl
  | cons line ls ih =>
    cases htests : opensTests line with
    | true => simp [scanFrom, htests]
    | false => simp [scanFrom, htests, ih]

theorem scan_eq (rules : List Rule) (content : String) :
    scan rules content = scanFrom rules 1 (lines content) := scanLines_eq rules (lines content)

theorem scanLine_eq (rules : List Rule) (number : Nat) (line : String) :
    scanLine rules number line = if isComment line then [] else
      (rules.filter (·.breaks line)).map fun rule => ⟨number, rule.name, trimmed line⟩ := rfl

theorem line_of_mem_scanLine {number : Nat} (h : f ∈ scanLine rules number line) :
    f.line = number := by
  rw [scanLine_eq] at h
  split at h
  · cases h
  · obtain ⟨rule, -, rfl⟩ := List.mem_map.mp h
    rfl

theorem line_of_mem_scanFrom (h : f ∈ scanFrom rules n ls) :
    n ≤ f.line ∧ f.line < n + ls.length := by
  induction ls generalizing n with
  | nil => cases h
  | cons line ls ih =>
    rw [scanFrom] at h
    split at h
    · cases h
    · rcases List.mem_append.mp h with hhere | hbehind
      · rw [line_of_mem_scanLine hhere, List.length_cons]
        omega
      · have hbounds := ih hbehind
        rw [List.length_cons]
        omega

/-- The scan stops at the first test section. -/
theorem scanFrom_append_tests (htests : opensTests line = true) (n : Nat)
    (before behind : List String) :
    scanFrom rules n (before ++ line :: behind) = scanFrom rules n before := by
  induction before generalizing n with
  | nil => simp [scanFrom, htests]
  | cons first before ih => rw [List.cons_append, scanFrom, scanFrom, ih]

theorem scanFrom_append (h : ∀ line ∈ before, opensTests line = false) (n : Nat)
    (behind : List String) : scanFrom rules n (before ++ behind) =
      scanFrom rules n before ++ scanFrom rules (n + before.length) behind := by
  induction before generalizing n with
  | nil => rfl
  | cons line before ih =>
    have hnumber : n + (line :: before).length = n + 1 + before.length := by
      rw [List.length_cons]
      omega
    rw [List.cons_append, scanFrom, scanFrom, h line (.head _),
      ih (fun line hmem => h line (.tail _ hmem)), hnumber]
    simp

/-- What is found, in a line that stands further down. -/
def Finding.shift (count : Nat) (f : Finding) : Finding := { f with line := f.line + count }

theorem scanFrom_shift (rules : List Rule) (n count : Nat) (ls : List String) :
    scanFrom rules (n + count) ls = (scanFrom rules n ls).map (Finding.shift count) := by
  induction ls generalizing n with
  | nil => rfl
  | cons line ls ih =>
    have hnumber : n + count + 1 = n + 1 + count := by omega
    have hhere : scanLine rules (n + count) line =
        (scanLine rules n line).map (Finding.shift count) := by
      rw [scanLine_eq, scanLine_eq]
      split
      · rfl
      · simp [Function.comp_def, Finding.shift]
    rw [scanFrom, scanFrom, hnumber, ih, hhere]
    split <;> simp

/-- What is found in one line has another text. -/
def Finding.retext (number : Nat) (text : String) (f : Finding) : Finding :=
  if f.line = number then { f with text } else f

theorem map_retext_of_ne {fs : List Finding} {number : Nat} (text : String)
    (h : ∀ f ∈ fs, f.line ≠ number) : fs.map (Finding.retext number text) = fs := by
  refine (List.map_congr_left fun f hf => ?_).trans (List.map_id fs)
  rw [Finding.retext, if_neg (h f hf), id]

/-- In a line that looks the same to the scan but for its text the same is found with the other
text, and nothing else changes. -/
theorem scanFrom_retext {line line' : String} (htests : opensTests line' = opensTests line)
    (hcomment : isComment line' = isComment line) (hcode : codePart line' = codePart line)
    (rules : List Rule) (n : Nat) (before behind : List String) :
    scanFrom rules n (before ++ line' :: behind) =
      (scanFrom rules n (before ++ line :: behind)).map
        (Finding.retext (n + before.length) (trimmed line')) := by
  induction before generalizing n with
  | nil =>
    have hhere : scanLine rules n line' =
        (scanLine rules n line).map (Finding.retext n (trimmed line')) := by
      have hbreaks : ∀ rule : Rule, rule.breaks line' = rule.breaks line := by
        simp [Rule.breaks, hcode]
      rw [scanLine_eq, scanLine_eq, hcomment]
      split
      · rfl
      · simp [hbreaks, Function.comp_def, Finding.retext]
    have hbehind : (scanFrom rules (n + 1) behind).map (Finding.retext n (trimmed line')) =
        scanFrom rules (n + 1) behind := by
      refine map_retext_of_ne _ fun f hf => ?_
      have hbounds := line_of_mem_scanFrom hf
      omega
    rw [List.nil_append, List.nil_append, List.length_nil, Nat.add_zero, scanFrom, scanFrom, htests,
      hhere]
    split
    · rfl
    · rw [List.map_append, hbehind]
  | cons first before ih =>
    have hnumber : n + (first :: before).length = n + 1 + before.length := by
      rw [List.length_cons]
      omega
    have hhere : (scanLine rules n first).map
        (Finding.retext (n + 1 + before.length) (trimmed line')) = scanLine rules n first := by
      refine map_retext_of_ne _ fun f hf => ?_
      have hline := line_of_mem_scanLine hf
      omega
    rw [List.cons_append, List.cons_append, scanFrom, scanFrom, ih, hnumber]
    split
    · rfl
    · rw [List.map_append, hhere]

/-! ## Which rules are reported -/

/-- A rule is broken in a line that stands before the first test section and is no comment: one
of its patterns occurs in front of the first comment in the line. -/
def Offends (ls : List String) (i : Nat) (rule : Rule) : Prop :=
  (∀ k ≤ i, ∀ line ∈ ls[k]?, ¬ testSection.toList <+: (trimmed line).toList) ∧
    ∃ line ∈ ls[i]?, ¬ comment.toList <+: (trimmed line).toList ∧
      ∃ code, InFront comment.toList line.toList code ∧
        ∃ pattern ∈ rule.patterns, pattern.toList <:+: code

theorem opensTests_eq_false : opensTests line = false ↔
    ¬ testSection.toList <+: (trimmed line).toList := by
  rw [← List.isPrefixOf_iff_prefix, Bool.not_eq_true]
  rfl

theorem breaks_iff {rule : Rule} : rule.breaks line = true ↔
    ∃ code, InFront comment.toList line.toList code ∧
      ∃ pattern ∈ rule.patterns, pattern.toList <:+: code := by
  have hne : comment.toList ≠ [] := by decide
  simp only [Rule.breaks, List.any_eq_true, occursIn_iff, inFront_iff hne, exists_eq_left, codePart]

theorem isComment_eq_false :
    isComment line = false ↔ ¬ comment.toList <+: (trimmed line).toList := by
  rw [← List.isPrefixOf_iff_prefix, Bool.not_eq_true]
  rfl

variable {rule : Rule}

/-- Whether a rule is broken in a line with no test section before it is said by that line. -/
theorem offends_iff (h : ∀ line ∈ before, opensTests line = false) :
    Offends (before ++ line :: behind) before.length rule ↔
      opensTests line = false ∧ isComment line = false ∧ rule.breaks line = true := by
  have hline : (before ++ line :: behind)[before.length]? = some line := by simp
  rw [Offends, hline, opensTests_eq_false, isComment_eq_false, breaks_iff]
  constructor
  · rintro ⟨htests, _, ⟨⟩, hcomment, hbreaks⟩
    exact ⟨htests _ le_rfl line hline, hcomment, hbreaks⟩
  · rintro ⟨htests, hcomment, hbreaks⟩
    refine ⟨fun k hk earlier hearlier => ?_, line, rfl, hcomment, hbreaks⟩
    rcases Nat.lt_or_eq_of_le hk with hlt | rfl
    · rw [List.getElem?_append_left hlt] at hearlier
      exact opensTests_eq_false.mp (h earlier (List.mem_of_getElem? hearlier))
    · rw [hline] at hearlier
      cases hearlier
      exact htests

/-- No rule is broken behind the first test section. -/
theorem not_offends (htests : opensTests line = true) {i : Nat} (hi : before.length ≤ i) :
    ¬ Offends (before ++ line :: behind) i rule := by
  rintro ⟨hnone, -⟩
  have hline : (before ++ line :: behind)[before.length]? = some line := by simp
  have hfalse := opensTests_eq_false.mpr (hnone _ hi line hline)
  rw [htests] at hfalse
  cases hfalse

open Classical in
/-- Each line is reported with the rules that are broken in it. -/
theorem scanFrom_eq_flatMap (before : List String) (h : ∀ line ∈ before, opensTests line = false)
    (ls : List String) :
    scanFrom rules (before.length + 1) ls =
      (ls.zipIdx before.length).flatMap fun (line, i) =>
        (rules.filter fun rule => decide (Offends (before ++ ls) i rule)).map fun rule =>
          ⟨i + 1, rule.name, trimmed line⟩ := by
  induction ls generalizing before with
  | nil => rfl
  | cons line ls ih =>
    rw [scanFrom]
    cases htests : opensTests line with
    | true =>
      refine (List.flatMap_eq_nil_iff.mpr fun p hp => ?_).symm
      have hi := List.le_snd_of_mem_zipIdx hp
      simp [not_offends htests hi]
    | false =>
      have hbefore : ∀ first ∈ before ++ [line], opensTests first = false := by
        simpa [or_imp, forall_and] using ⟨h, htests⟩
      have hhere : scanLine rules (before.length + 1) line =
          (rules.filter fun rule => decide (Offends (before ++ line :: ls) before.length rule)).map
            fun rule => ⟨before.length + 1, rule.name, trimmed line⟩ := by
        rw [scanLine_eq]
        simp only [offends_iff h, htests, true_and]
        cases hcomment : isComment line <;> simp
      have hbehind := ih _ hbefore
      rw [List.append_assoc, List.singleton_append, List.length_append, List.length_singleton]
        at hbehind
      rw [if_neg Bool.false_ne_true, hhere, hbehind, List.zipIdx_cons, List.flatMap_cons]

/-! ## The scan of a text -/

/-- The lines in front of a line end with it, whatever stands behind. -/
theorem scan_append_tests (ha : Closed a) (hfeed : '\n' ∉ t.toList)
    (htests : testSection.toList <+: (trimmed t).toList) (hrest : Behind rest) :
    scan rules (a ++ t ++ rest) = scan rules a := by
  have hne : t ≠ "" := by
    rintro rfl
    exact absurd htests (by decide)
  obtain ⟨ending, behind, hending, hlines⟩ := lines_line hrest
  have hopens : opensTests (String.ofList (ending t.toList)) = true := by
    rw [opensTests, trimmed_ending hending]
    exact List.isPrefixOf_iff_prefix.mpr htests
  rw [scan_eq, scan_eq, String.append_assoc, lines_append ha, hlines t hfeed hne,
    scanFrom_append_tests hopens]

theorem first_of_inFront {code said : String}
    (h : InFront comment.toList (code ++ comment ++ said).toList code.toList) :
    ¬ comment.toList <:+: code.toList ++ comment.toList.dropLast := by
  rw [String.toList_append, String.toList_append] at h
  rcases h with ⟨hnone, -⟩ | ⟨_, -, hfirst⟩
  · exact absurd ⟨code.toList, said.toList, rfl⟩ hnone
  · exact hfirst

theorem ne_empty_of_comment (code said : String) : code ++ comment ++ said ≠ "" := by
  rw [Ne, ← String.toList_inj]
  simp [toList_comment]

/-- What is said in a comment shows in the text of its line only. -/
theorem scan_comment {code said said' : String} (ha : Closed a)
    (hfeed : '\n' ∉ (code ++ said ++ said').toList) (hrest : Behind rest)
    (hcode : InFront comment.toList (code ++ comment ++ said).toList code.toList) :
    scan rules (a ++ (code ++ comment ++ said') ++ rest) =
      (scan rules (a ++ (code ++ comment ++ said) ++ rest)).map
        (Finding.retext ((lines a).length + 1) (trimmed (code ++ comment ++ said'))) := by
  have hfirst := first_of_inFront hcode
  obtain ⟨⟨hin, hsaid⟩, hsaid'⟩ :
      ('\n' ∉ code.toList ∧ '\n' ∉ said.toList) ∧ '\n' ∉ said'.toList := by
    simpa only [String.toList_append, List.mem_append, not_or] using hfeed
  have hline : ∀ x : String, '\n' ∉ x.toList → '\n' ∉ (code ++ comment ++ x).toList := by
    intro x hx
    simp [toList_comment, hin, hx]
  have hassoc : ∀ x, a ++ x ++ rest = a ++ (x ++ rest) := fun x => String.append_assoc
  obtain ⟨ending, behind, hending, hlines⟩ := lines_line hrest
  rw [scan_eq, scan_eq, hassoc, hassoc, lines_append ha, lines_append ha,
    hlines _ (hline said hsaid) (ne_empty_of_comment _ _),
    hlines _ (hline said' hsaid') (ne_empty_of_comment _ _), ← trimmed_ending hending,
    Nat.add_comm _ 1]
  refine scanFrom_retext ?_ ?_ ?_ rules 1 (lines a) behind
  · rw [ending_comment hending, ending_comment hending, opensTests_comment, opensTests_comment]
  · rw [ending_comment hending, ending_comment hending, isComment_comment hfirst,
      isComment_comment hfirst]
  · rw [ending_comment hending, ending_comment hending, codePart_comment hfirst,
      codePart_comment hfirst]

/-- Whole lines without a test section are scanned on their own. -/
theorem scan_append (ha : Closed a)
    (htests : ∀ line ∈ lines a, ¬ testSection.toList <+: (trimmed line).toList) (b : String) :
    scan rules (a ++ b) =
      scan rules a ++ (scan rules b).map (Finding.shift (lines a).length) := by
  rw [scan_eq, scan_eq, scan_eq, lines_append ha,
    scanFrom_append fun line hline => opensTests_eq_false.mpr (htests line hline), scanFrom_shift]

/-! ## The violations in a file -/

/-- A violation in a line that stands further down. -/
def Violation.shift (count : Nat) (v : Violation) : Violation := { v with line := v.line + count }

/-- The text of the violations in one line is another. -/
def Violation.retext (number : Nat) (text : String) (v : Violation) : Violation :=
  if v.line = number then { v with text } else v

theorem inFile_shift (path : String) (count : Nat) (f : Finding) :
    (f.shift count).inFile path = (f.inFile path).shift count := rfl

theorem inFile_retext (path : String) (number : Nat) (text : String) (f : Finding) :
    (f.retext number text).inFile path = (f.inFile path).retext number text := by
  by_cases hline : f.line = number <;>
    simp [Finding.retext, Violation.retext, Finding.inFile, hline]

/-- What is done to all that is found, and to the violations, comes to the same. -/
theorem map_inFile {path : String} {change : Finding → Finding} {change' : Violation → Violation}
    (h : ∀ f, (change f).inFile path = change' (f.inFile path)) (fs : List Finding) :
    (fs.map change).map (Finding.inFile path) = (fs.map (Finding.inFile path)).map change' := by
  rw [List.map_map, List.map_map]
  exact List.map_congr_left fun f _ => h f

open Classical in
/-- **A scan reports exactly the forbidden code.** Line by line, and in each line in the order of
the rules, it reports the rules that are broken there, each with the path of the file, the number
of the line and its text.  So what stands behind a line that opens the tests says nothing, what is
said in a comment changes no more than the text of the violations in its line, and behind whole
lines without a test section a text has the violations that it has on its own, further down. -/
theorem scan_reports (path : String) (rules : List Rule) :
    (∀ content, scanSource path content rules = (lines content).zipIdx.flatMap fun (line, i) =>
      (rules.filter fun rule => decide (Offends (lines content) i rule)).map fun rule =>
        { path, line := i + 1, rule := rule.name, text := trimmed line }) ∧
    (∀ a tests rest, Closed a → '\n' ∉ tests.toList →
      testSection.toList <+: (trimmed tests).toList → Behind rest →
        scanSource path (a ++ tests ++ rest) rules = scanSource path a rules) ∧
    (∀ a code said said' rest, Closed a → '\n' ∉ (code ++ said ++ said').toList → Behind rest →
      InFront comment.toList (code ++ comment ++ said).toList code.toList →
        scanSource path (a ++ (code ++ comment ++ said') ++ rest) rules =
          (scanSource path (a ++ (code ++ comment ++ said) ++ rest) rules).map
            (Violation.retext ((lines a).length + 1) (trimmed (code ++ comment ++ said')))) ∧
    ∀ a b, Closed a → (∀ line ∈ lines a, ¬ testSection.toList <+: (trimmed line).toList) →
      scanSource path (a ++ b) rules = scanSource path a rules ++
        (scanSource path b rules).map (Violation.shift (lines a).length) := by
  refine ⟨fun content => ?_, fun a tests rest ha hfeed htests hrest => ?_,
    fun a code said said' rest ha hfeed hrest hcode => ?_, fun a b ha htests => ?_⟩
  · have hscan := @scanFrom_eq_flatMap rules [] (by simp) (lines content)
    rw [List.length_nil, ← scan_eq] at hscan
    simp only [scanSource, hscan, List.map_flatMap, List.map_map, List.nil_append]
    rfl
  · rw [scanSource, scan_append_tests ha hfeed htests hrest, scanSource]
  · rw [scanSource, scan_comment ha hfeed hrest hcode, map_inFile (inFile_retext path _ _),
      scanSource]
  · rw [scanSource, scan_append ha htests, List.map_append, map_inFile (inFile_shift path _),
      scanSource, scanSource]

/-- No thread may be put to sleep. -/
def blockingSleep : Rule := ⟨"Blocking sleep", ["thread::sleep("]⟩

/-- The comment behind a forbidden call shows in the report, and nothing else of it does. -/
theorem scan_reports_reworded :
    scanSource "pump.rs"
          ("run();\n" ++ ("  thread::sleep(d); " ++ comment ++ " now") ++ "\nend();\n")
          [blockingSleep] =
        [⟨⟨2, "Blocking sleep", "thread::sleep(d); // now"⟩, "pump.rs"⟩] ∧
      scanSource "pump.rs"
          ("run();\n" ++ ("  thread::sleep(d); " ++ comment ++ " // later") ++ "\nend();\n")
          [blockingSleep] =
        [⟨⟨2, "Blocking sleep", "thread::sleep(d); // // later"⟩, "pump.rs"⟩] := by
  have hnow : scanSource "pump.rs"
      ("run();\n" ++ ("  thread::sleep(d); " ++ comment ++ " now") ++ "\nend();\n")
      [blockingSleep] =
        [⟨⟨2, "Blocking sleep", "thread::sleep(d); // now"⟩, "pump.rs"⟩] := by decide
  obtain ⟨-, -, hcomment, -⟩ := scan_reports "pump.rs" [blockingSleep]
  have hlater := hcomment "run();\n" "  thread::sleep(d); " " now" " // later" "\nend();\n"
    (by simp [Closed]) (by decide) (by simp [Behind])
    ((inFront_iff (by decide)).mpr (by decide))
  rw [hnow] at hlater
  exact ⟨hnow, hlater.trans (by decide)⟩

end TelemetryRelay.SourceScan
