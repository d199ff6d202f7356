import LetterIRL.Layout.Truncated
import LetterIRL.Lib.Lines

namespace LetterIRL.Layout
open Lib

/-! `signatureParagraph`: the paragraph a signature is drawn under, in the text as it prints and as it is laid out. -/

def trimEnd (text : Text) : Text := text.rdropWhile isWhitespace

def trim (text : Text) : Text := Lines.trim isWhitespace text

/-- A letter's text as it prints. A body may be missing; a sign-off that is missing or empty is none. -/
def letterPrintText (bodyText signOff : Option Text) : Text :=
  let body := trimEnd (normalizeBreaks (bodyText.getD []))
  match signOff with
  | none | some [] => trim body
  | some signOff => trim (body ++ 10 :: normalizeBreaks signOff)

def signatureParagraph (bodyText signOff : Option Text) : Nat :=
  let body := letterPrintText bodyText none
  let paragraphs := (letterPrintText bodyText signOff).splitOn 10
  Lines.pastBlank isWhitespace paragraphs (if body = [] then 0 else (body.splitOn 10).length)

/-- The lines of a text that show something. -/
def visibleLines (text : Option Text) : List Text :=
  Lines.visible isWhitespace ((normalizeBreaks (text.getD [])).splitOn 10)

theorem newline_white : isWhitespace 10 = true := by decide

/-- A text without the white space at its end keeps its end when its start is trimmed. -/
theorem trim_trimEnd (text : Text) :
    trim (trimEnd text) = (trimEnd text).dropWhile isWhitespace := by
  unfold trim Lines.trim
  rw [List.rdropWhile_eq_self_iff]
  intro some_
  have whole : trimEnd text ≠ [] := fun none_ => some_ (by rw [none_]; rfl)
  have last : ((trimEnd text).dropWhile isWhitespace).getLast some_ = (trimEnd text).getLast whole := by
    obtain ⟨start, parts⟩ := List.dropWhile_suffix isWhitespace (l := trimEnd text)
    have joined : (start ++ (trimEnd text).dropWhile isWhitespace).getLast (by rw [parts]; exact whole) =
        ((trimEnd text).dropWhile isWhitespace).getLast some_ := List.getLast_append_of_ne_nil _ some_
    rw [← joined]
    simp only [parts]
  rw [last]
  exact List.rdropWhile_last_not _ _ whole

theorem trim_append_white {text white : Text} (blank : white.all isWhitespace = true) : trim (text ++ white) = trim text := by
  induction white using List.reverseRecOn with
  | nil => rw [List.append_nil]
  | append_singleton rest last ih =>
    rw [List.all_append, List.all_cons, List.all_nil, Bool.and_true] at blank
    obtain ⟨before, here⟩ := Bool.and_eq_true_iff.mp blank
    rw [← List.append_assoc]
    exact (Lines.trim_concat_space here).trans (ih before)

/-- A text and another that shows something, trimmed together. -/
theorem trim_append {text more : Text} (some_ : text.dropWhile isWhitespace ≠ []) (shows : more.all isWhitespace = false) :
    trim (text ++ more) = text.dropWhile isWhitespace ++ trimEnd more := by
  have first : (text ++ more).dropWhile isWhitespace = text.dropWhile isWhitespace ++ more := by
    rw [List.dropWhile_append, if_neg (by rwa [List.isEmpty_iff])]
  have last : trimEnd (text.dropWhile isWhitespace ++ more) = text.dropWhile isWhitespace ++ trimEnd more := by
    unfold trimEnd List.rdropWhile
    rw [List.reverse_append, List.dropWhile_append, if_neg, List.reverse_append, List.reverse_reverse]
    intro gone
    rw [List.isEmpty_iff, List.dropWhile_eq_nil_iff] at gone
    rw [List.all_eq_true.mpr fun unit member => gone unit (List.mem_reverse.mpr member)] at shows
    nomatch shows
  unfold trim Lines.trim
  rw [first]
  exact last

/-- The paragraphs printed: so many of the body, and then the sign-off's. -/
theorem printed_parts (bodyText signOff : Option Text) : ∃ front back,
    (letterPrintText bodyText signOff).splitOn 10 = front ++ back ∧
      (if letterPrintText bodyText none = [] then 0 else ((letterPrintText bodyText none).splitOn 10).length) = front.length ∧
      Lines.visible isWhitespace front = visibleLines bodyText ∧ Lines.visible isWhitespace back = visibleLines signOff := by
  have body : Lines.visible isWhitespace ((letterPrintText bodyText none).splitOn 10) = visibleLines bodyText :=
    (Lines.visible_trim _).trans (Lines.visible_rdropWhile _)
  have alone (same : letterPrintText bodyText signOff = letterPrintText bodyText none) (blank : visibleLines signOff = []) :
      ∃ front back, (letterPrintText bodyText signOff).splitOn 10 = front ++ back ∧
        (if letterPrintText bodyText none = [] then 0 else ((letterPrintText bodyText none).splitOn 10).length) = front.length ∧
        Lines.visible isWhitespace front = visibleLines bodyText ∧
        Lines.visible isWhitespace back = visibleLines signOff := by
    rw [same, blank]
    by_cases none_ : letterPrintText bodyText none = []
    · rw [none_, List.splitOn_nil] at body
      rw [if_pos none_, none_, List.splitOn_nil]
      exact ⟨[], [[]], rfl, rfl, by rw [← body]; rfl, rfl⟩
    · rw [if_neg none_]
      exact ⟨_, [], (List.append_nil _).symm, rfl, body, rfl⟩
  cases signOff with
  | none => exact alone rfl rfl
  | some given =>
    cases given with
    | nil => exact alone rfl rfl
    | cons unit rest =>
      have printed : letterPrintText bodyText (some (unit :: rest)) =
          trim (trimEnd (normalizeBreaks (bodyText.getD [])) ++ 10 :: normalizeBreaks (unit :: rest)) := rfl
      have shownSign : Lines.visible isWhitespace ((normalizeBreaks (unit :: rest)).splitOn 10) =
          visibleLines (some (unit :: rest)) := rfl
      cases blank : (normalizeBreaks (unit :: rest)).all isWhitespace with
      | true =>
        refine alone ?_ ((Lines.visible_splitOn_nil_iff newline_white).mpr blank)
        rw [printed]
        refine trim_append_white ?_
        rw [List.all_cons, newline_white, blank, Bool.true_and]
      | false =>
        by_cases none_ : letterPrintText bodyText none = []
        · rw [if_pos none_]
          have nothing : visibleLines bodyText = [] := by
            rw [← body, none_, List.splitOn_nil]
            rfl
          refine ⟨[], _, rfl, rfl, nothing.symm, ?_⟩
          rw [printed]
          refine (Lines.visible_trim _).trans ?_
          rw [List.splitOn_append_cons_self, Lines.visible_append, shownSign]
          have bodyLines : Lines.visible isWhitespace ((trimEnd (normalizeBreaks (bodyText.getD []))).splitOn 10) = [] :=
            (Lines.visible_rdropWhile _).trans nothing
          rw [bodyLines, List.nil_append]
        · have kept := trim_trimEnd (normalizeBreaks (bodyText.getD []))
          have some_ : (trimEnd (normalizeBreaks (bodyText.getD []))).dropWhile isWhitespace ≠ [] := kept ▸ none_
          have both : letterPrintText bodyText (some (unit :: rest)) =
              letterPrintText bodyText none ++ 10 :: trimEnd (normalizeBreaks (unit :: rest)) := by
            rw [printed, trim_append some_ (by rw [List.all_cons, newline_white, blank, Bool.true_and])]
            have ends : trimEnd (10 :: normalizeBreaks (unit :: rest)) = 10 :: trimEnd (normalizeBreaks (unit :: rest)) := by
              unfold trimEnd List.rdropWhile
              rw [List.reverse_cons, List.dropWhile_append, if_neg, List.reverse_append]
              · rfl
              · intro gone
                rw [List.isEmpty_iff, List.dropWhile_eq_nil_iff] at gone
                rw [List.all_eq_true.mpr fun unit member => gone unit (List.mem_reverse.mpr member)] at blank
                nomatch blank
            rw [ends]
            exact congrArg (· ++ _) kept.symm
          rw [if_neg none_, both, List.splitOn_append_cons_self]
          refine ⟨_, _, rfl, rfl, body, ?_⟩
          exact Lines.visible_rdropWhile _

/-- A text with some of its marks dropped. -/
inductive Thinned (face : Face) : Text → Text → Prop
  | nil : Thinned face [] []
  | keep (unit : Nat) {text kept : Text} (rest : Thinned face text kept) : Thinned face (unit :: text) (unit :: kept)
  | drop (character : Text) {text kept : Text} (mark : face.isMark (codePointOf character) = true)
      (inLine : 10 ∉ character) (rest : Thinned face text kept) : Thinned face (character ++ text) kept

section Clean
variable {face : Face} {text kept more : Text}

theorem Thinned.refl (face : Face) (text : Text) : Thinned face text text := by
  induction text with
  | nil => exact .nil
  | cons unit rest ih => exact .keep unit ih

theorem Thinned.append {more' : Text} (first : Thinned face text kept) (second : Thinned face more more') :
    Thinned face (text ++ more) (kept ++ more') := by
  induction first with
  | nil => exact second
  | keep unit _ ih => exact .keep unit ih
  | drop character mark inLine _ ih =>
    rw [List.append_assoc]
    exact .drop character mark inLine ih

theorem Thinned.mem (thinned : Thinned face text kept) {unit : Nat} (member : unit ∈ kept) : unit ∈ text := by
  induction thinned with
  | nil => exact member
  | keep other _ ih =>
    rcases List.mem_cons.mp member with rfl | later
    · exact List.mem_cons_self
    · exact List.mem_cons_of_mem _ (ih later)
  | drop character _ _ _ ih => exact List.mem_append_right _ (ih member)

/-- A character that is not the newline has none in it. -/
theorem characters_newline {character : Text} (member : character ∈ characters text) (held : 10 ∈ character) :
    character = [10] := by
  induction text using characters.induct with
  | case1 => nomatch member
  | case2 unit =>
    obtain rfl := List.mem_singleton.mp member
    rw [List.mem_singleton.mp held]
  | case3 first second rest pair ih =>
    unfold characters at member
    rw [if_pos pair] at member
    rcases List.mem_cons.mp member with rfl | later
    · simp only [Bool.and_eq_true, decide_eq_true_eq] at pair
      rcases List.mem_cons.mp held with low | high
      · omega
      · have high := List.mem_singleton.mp high
        omega
    · exact ih later
  | case4 first second rest apart ih =>
    unfold characters at member
    rw [if_neg apart] at member
    rcases List.mem_cons.mp member with rfl | later
    · rw [List.mem_singleton.mp held]
    · exact ih later

theorem characters_flatten (text : Text) : (characters text).flatten = text := by
  induction text using characters.induct with
  | case1 => rfl
  | case2 unit => rfl
  | case3 first second rest pair ih =>
    unfold characters
    rw [if_pos pair, List.flatten_cons, ih]
    rfl
  | case4 first second rest apart ih =>
    unfold characters
    rw [if_neg apart, List.flatten_cons, ih]
    rfl

/-- A letter's marks past the fourth are dropped, and nothing else. -/
theorem clampLetter_thinned (newline : face.isMark 10 = false) (marks : Nat) (letters : List Text)
    (plain : ∀ character ∈ letters, 10 ∈ character → character = [10]) :
    Thinned face letters.flatten (face.clampLetter marks letters) := by
  induction letters generalizing marks with
  | nil => exact .nil
  | cons character rest ih =>
    have later := fun marks => ih marks fun other member => plain other (List.mem_cons_of_mem _ member)
    have held := (Thinned.refl face character).append (later marks)
    have counted := (Thinned.refl face character).append (later (marks + 1))
    rw [List.flatten_cons]
    unfold Face.clampLetter
    split
    · rename_i mark
      split
      · refine .drop character mark (fun inside => ?_) (later _)
        rw [plain character List.mem_cons_self inside] at mark
        exact Bool.false_ne_true (newline.symm.trans mark)
      · exact counted
    · exact held

theorem flatten_thinned {parts : List Text} {clamp : Text → Text} (each : ∀ part ∈ parts, Thinned face part (clamp part)) :
    Thinned face parts.flatten (parts.map clamp).flatten := by
  induction parts with
  | nil => exact .nil
  | cons part rest ih =>
    rw [List.map_cons, List.flatten_cons, List.flatten_cons]
    exact (each part List.mem_cons_self).append (ih fun other member => each other (List.mem_cons_of_mem _ member))

theorem clampMarks_thinned (newline : face.isMark 10 = false) (text : Text) : Thinned face text (face.clampMarks text) := by
  unfold Face.clampMarks
  split
  · have each : ∀ part ∈ face.graphemes.segment text, Thinned face part (face.clampLetter 0 (characters part)) := by
      intro part _
      have clamped := clampLetter_thinned newline 0 (characters part) fun character member held =>
        characters_newline member held
      rwa [characters_flatten] at clamped
    have whole := flatten_thinned each
    rwa [face.graphemes.joins] at whole
  · exact .refl face text

theorem splitOn_append_line {line : Text} (plain : 10 ∉ line) (text : Text) :
    (line ++ text).splitOn 10 = (text.splitOn 10).modifyHead (line ++ ·) := by
  induction line with
  | nil =>
    obtain ⟨first, rest, split⟩ := List.exists_cons_of_ne_nil (List.splitOn_ne_nil 10 text)
    rw [List.nil_append, split]
    rfl
  | cons unit rest ih =>
    have apart : (unit == 10) = false := beq_false_of_ne fun same => plain (same ▸ List.mem_cons_self)
    rw [List.cons_append, List.splitOn_cons_eq_if_modifyHead, apart, ih fun member => plain (List.mem_cons_of_mem _ member)]
    obtain ⟨first, others, split⟩ := List.exists_cons_of_ne_nil (List.splitOn_ne_nil 10 text)
    rw [split]
    rfl

/-- Marks dropped leave every paragraph in its place. -/
theorem Thinned.splitOn (thinned : Thinned face text kept) :
    List.Forall₂ (Thinned face) (text.splitOn 10) (kept.splitOn 10) := by
  induction thinned with
  | nil => exact .cons .nil .nil
  | @keep unit text kept _ ih =>
    rw [List.splitOn_cons_eq_if_modifyHead, List.splitOn_cons_eq_if_modifyHead]
    split
    · exact .cons .nil ih
    · cases before : text.splitOn 10 with
      | nil => exact absurd before (List.splitOn_ne_nil 10 text)
      | cons line lines =>
        rw [before] at ih
        cases after : kept.splitOn 10 with
        | nil => exact absurd after (List.splitOn_ne_nil 10 kept)
        | cons line' lines' =>
          rw [after] at ih
          obtain ⟨first, others⟩ := List.forall₂_cons.mp ih
          exact .cons (.keep unit first) others
  | @drop character text kept mark inLine _ ih =>
    rw [splitOn_append_line inLine]
    cases before : text.splitOn 10 with
    | nil => exact absurd before (List.splitOn_ne_nil 10 text)
    | cons line lines =>
      rw [before] at ih
      cases after : kept.splitOn 10 with
      | nil => exact absurd after (List.splitOn_ne_nil 10 kept)
      | cons line' lines' =>
        rw [after] at ih
        obtain ⟨first, others⟩ := List.forall₂_cons.mp ih
        exact .cons (.drop character mark inLine first) others

theorem expandTabs_splitOn (text : Text) : (expandTabs text).splitOn 10 = (text.splitOn 10).map expandTabs := by
  induction text with
  | nil => rfl
  | cons unit rest ih =>
    obtain ⟨line, lines, split⟩ := List.exists_cons_of_ne_nil (List.splitOn_ne_nil 10 rest)
    have expanded : expandTabs (unit :: rest) = (if unit = 9 then [32, 32, 32, 32] else [unit]) ++ expandTabs rest := rfl
    rw [expanded, List.splitOn_cons_eq_if_modifyHead]
    by_cases ends : unit = 10
    · rw [ends, if_neg (by decide), if_pos (beq_self_eq_true 10), List.map_cons, ← ih]
      exact List.splitOn_append_cons_self [] (expandTabs rest)
    · have plain : 10 ∉ (if unit = 9 then [32, 32, 32, 32] else [unit] : Text) := by
        split
        · decide
        · exact fun member => ends (List.mem_singleton.mp member).symm
      rw [splitOn_append_line plain, ih, beq_false_of_ne ends, split]
      rfl

theorem normalizeBreaks_plain (text : Text) : 13 ∉ normalizeBreaks text := by
  induction text using normalizeBreaks.induct with
  | case1 => exact List.not_mem_nil
  | case2 => decide
  | case3 unit other =>
    unfold normalizeBreaks
    rw [if_neg other]
    exact fun member => other (List.mem_singleton.mp member).symm
  | case4 rest ih =>
    unfold normalizeBreaks
    rw [if_pos rfl, if_pos rfl]
    exact fun member => (List.mem_cons.mp member).elim (fun same => (by cases same)) ih
  | case5 second rest other ih =>
    unfold normalizeBreaks
    rw [if_pos rfl, if_neg other]
    exact fun member => (List.mem_cons.mp member).elim (fun same => (by cases same)) ih
  | case6 first second rest other ih =>
    unfold normalizeBreaks
    rw [if_neg other]
    exact fun member => (List.mem_cons.mp member).elim (fun same => other same.symm) ih

theorem trim_subset (text : Text) : trim text ⊆ text := fun _ member =>
  (List.dropWhile_suffix isWhitespace).subset ((List.rdropWhile_prefix isWhitespace _).subset member)

/-- What prints has no carriage return left. -/
theorem letterPrintText_plain (bodyText signOff : Option Text) : 13 ∉ letterPrintText bodyText signOff := by
  have body : 13 ∉ trimEnd (normalizeBreaks (bodyText.getD [])) := fun member =>
    normalizeBreaks_plain _ ((List.rdropWhile_prefix isWhitespace _).subset member)
  unfold letterPrintText
  split
  · exact fun member => body (trim_subset _ member)
  · exact fun member => body (trim_subset _ member)
  · intro member
    rcases List.mem_append.mp (trim_subset _ member) with inBody | later
    · exact body inBody
    · rcases List.mem_cons.mp later with same | inSignOff
      · nomatch same
      · exact normalizeBreaks_plain _ inSignOff

/-- A paragraph as it is laid out: some of its marks dropped, and its tabs spaces. -/
def Cleaned (face : Face) (paragraph cleaned : Text) : Prop := ∃ kept, Thinned face paragraph kept ∧ cleaned = expandTabs kept

theorem paragraphsOf_cleaned (newline : face.isMark 10 = false) (plain : 13 ∉ text) :
    List.Forall₂ (Cleaned face) (text.splitOn 10) (paragraphsOf face text) := by
  have thinned := clampMarks_thinned newline text
  unfold paragraphsOf
  rw [normalizeBreaks_same fun member => plain (thinned.mem member), expandTabs_splitOn]
  exact List.forall₂_map_right_iff.mpr (thinned.splitOn.imp fun _ kept small => ⟨kept, small, rfl⟩)

end Clean

/-- The paragraph at the index is the sign-off's first visible line, after the body's and before its others, and there is
none exactly when the sign-off shows nothing; and what is laid out has the same paragraphs in the same places. -/
theorem signatureParagraph_holds (face : Face) (newline : face.isMark 10 = false) (bodyText signOff : Option Text) :
    let paragraphs := (letterPrintText bodyText signOff).splitOn 10
    let index := signatureParagraph bodyText signOff
    paragraphs[index]?.map trim = (visibleLines signOff).head? ∧
    Lines.visible isWhitespace (paragraphs.take index) = visibleLines bodyText ∧
    Lines.visible isWhitespace (paragraphs.drop index) = visibleLines signOff ∧
    index ≤ paragraphs.length ∧ (index = paragraphs.length ↔ visibleLines signOff = []) ∧
    List.Forall₂ (Cleaned face) paragraphs (paragraphsOf face (letterPrintText bodyText signOff)) := by
  obtain ⟨front, back, parts, length, body, signed⟩ := printed_parts bodyText signOff
  obtain ⟨taken, dropped, found, within⟩ := Lines.pastBlank_spec isWhitespace front back
  have index : signatureParagraph bodyText signOff = Lines.pastBlank isWhitespace (front ++ back) front.length := by
    unfold signatureParagraph
    rw [← parts, ← length]
  have cleaned := paragraphsOf_cleaned newline (letterPrintText_plain bodyText signOff)
  rw [← index, ← parts] at taken dropped found within
  rw [body] at taken
  rw [signed] at dropped found
  refine ⟨found, taken, dropped, within, ?_, cleaned⟩
  rw [← List.head?_eq_none_iff, ← found, Option.map_eq_none_iff, List.getElem?_eq_none_iff]
  exact ⟨fun same => same.ge, fun past => Nat.le_antisymm within past⟩

/-- `Hi`, a blank line, and a sign-off after one of its own. -/
theorem signed_after_blank : signatureParagraph (some [72, 105, 13, 10, 32, 10]) (some [10, 9, 74, 111, 10, 75]) = 2 ∧
    ([[72, 105], [], [9, 74, 111], [75]] : List Text)[2]?.map trim =
      (visibleLines (some [10, 9, 74, 111, 10, 75])).head? := by
  have index : signatureParagraph (some [72, 105, 13, 10, 32, 10]) (some [10, 9, 74, 111, 10, 75]) = 2 := by decide +kernel
  have parts : (letterPrintText (some [72, 105, 13, 10, 32, 10]) (some [10, 9, 74, 111, 10, 75])).splitOn 10 =
      [[72, 105], [], [9, 74, 111], [75]] := by decide +kernel
  have holds := (signatureParagraph_holds (plainFace Wrapping.unitClusters 6) rfl
    (some [72, 105, 13, 10, 32, 10]) (some [10, 9, 74, 111, 10, 75])).1
  rw [index, parts] at holds
  exact ⟨index, holds⟩

end LetterIRL.Layout
