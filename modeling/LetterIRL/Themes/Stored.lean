import LetterIRL.Themes.Cleaners

namespace LetterIRL.Themes
open Lib

/-! `stationeryOf` and `storedStationery`: a stationery as a draft stores it and as the print reads it. -/

/-- A text of the source, in code points. -/
def codes (text : String) : Text := text.toList.map Char.toNat

/-- A value of any kind: of the column, or of a tool's input. -/
inductive Value
  | null
  | bool (value : Bool)
  | number (value : Int)
  | text (value : Text)
  | array (items : List Value)
  | object (members : List (String × Value))

/-- `STATIONERY_THEMES`, and `CUSTOM_THEME`. -/
inductive Theme
  | classic
  | monogram
  | botanical
  | celebration
  | typewriter
  | handwritten
  | custom
  deriving DecidableEq

def Theme.text : Theme → Text
  | .classic => codes "classic"
  | .monogram => codes "monogram"
  | .botanical => codes "botanical"
  | .celebration => codes "celebration"
  | .typewriter => codes "typewriter"
  | .handwritten => codes "handwritten"
  | .custom => codes "custom"

def STATIONERY_THEMES : List Theme := [.classic, .monogram, .botanical, .celebration, .typewriter, .handwritten]

inductive StationeryFace
  | serif
  | typewriter
  | handwritten
  deriving DecidableEq

def StationeryFace.text : StationeryFace → Text
  | .serif => codes "serif"
  | .typewriter => codes "typewriter"
  | .handwritten => codes "handwritten"

inductive StationeryOrnament
  | none
  | monogram
  | sprig
  | confetti
  deriving DecidableEq

def StationeryOrnament.text : StationeryOrnament → Text
  | .none => codes "none"
  | .monogram => codes "monogram"
  | .sprig => codes "sprig"
  | .confetti => codes "confetti"

inductive StationeryTone
  | black
  | dark
  | medium
  | light
  deriving DecidableEq

def StationeryTone.text : StationeryTone → Text
  | .black => codes "black"
  | .dark => codes "dark"
  | .medium => codes "medium"
  | .light => codes "light"

structure StationeryDesign where
  face : StationeryFace
  ornament : StationeryOrnament
  ruled : Bool
  tone : StationeryTone
  deriving DecidableEq

structure Stationery where
  theme : Theme
  design : Option StationeryDesign := none
  name : Option Text := none
  dateLine : Option Text := none
  monogram : Option Text := none
  headline : Option Text := none
  deriving DecidableEq

/-- `record[key]`, where a member that is not there is `none`. -/
def member (members : List (String × Value)) (key : String) : Option Value :=
  (members.find? fun pair => pair.1 == key).map Prod.snd

/-- A choice, by its text. -/
def choice {α : Type} (choices : List α) (text : α → Text) (value : Option Value) : Option α :=
  match value with
  | some (.text given) => choices.find? fun option => text option == given
  | _ => none

def designOf : Option Value → Option StationeryDesign
  | some (.object members) => do
    guard (members.all fun pair => decide (pair.1 ∈ ["face", "ornament", "ruled", "tone"]))
    let face ← choice [.serif, .typewriter, .handwritten] StationeryFace.text (member members "face")
    let ornament ← choice [.none, .monogram, .sprig, .confetti] StationeryOrnament.text (member members "ornament")
    let ruled ← match member members "ruled" with
      | some (.bool ruled) => some ruled
      | _ => none
    let tone ← choice [.black, .dark, .medium, .light] StationeryTone.text (member members "tone")
    return ⟨face, ornament, ruled, tone⟩
  | _ => none

def STATIONERY_SLOT_MAX_LENGTH : Nat := 200

/-- `text.length`, in UTF-16 units. -/
def units (text : Text) : Nat := (text.map fun c => if 0x10000 ≤ c then 2 else 1).sum

/-- A slot read back: absent, or a text of sensible length, or refused. -/
def slotOf (value : Option Value) : Option (Option Text) :=
  match value with
  | none | some .null => some none
  | some (.text text) => if units text ≤ STATIONERY_SLOT_MAX_LENGTH then some (some text) else none
  | some _ => none

variable (u : Classes)

/-- The name read back, if it is as a design name is kept. -/
def keptName (value : Option Value) : Option Text :=
  match value with
  | some (.text name) => if designNameOf u name = some name then some name else none
  | _ => none

/-- The theme read back, with its design and its name. -/
def themeOf (members : List (String × Value)) : Option Stationery :=
  match member members "theme" with
  | some (.text theme) =>
    if theme = Theme.custom.text then do
      let design ← designOf (member members "design")
      return { theme := .custom, design := some design, name := keptName u (member members "name") }
    else do
      let theme ← STATIONERY_THEMES.find? fun known => known.text == theme
      guard (theme ≠ .classic)
      return { theme := theme }
  | _ => none

def stationeryOf : Option Value → Option Stationery
  | some (.object members) => do
    let themed ← themeOf u members
    let dateLine ← slotOf (member members "dateLine")
    let monogram ← slotOf (member members "monogram")
    let headline ← slotOf (member members "headline")
    return { themed with dateLine := dateLine, monogram := monogram, headline := headline }
  | _ => none

def StationeryDesign.value (design : StationeryDesign) : Value :=
  .object [("face", .text design.face.text), ("ornament", .text design.ornament.text), ("ruled", .bool design.ruled),
    ("tone", .text design.tone.text)]

/-- A stationery as a value, its absent fields left out. -/
def Stationery.value (stationery : Stationery) : Value :=
  .object (("theme", .text stationery.theme.text) ::
    ((stationery.design.map fun design => ("design", design.value)).toList ++
      (stationery.name.map fun name => ("name", Value.text name)).toList ++
      (stationery.dateLine.map fun text => ("dateLine", Value.text text)).toList ++
      (stationery.monogram.map fun text => ("monogram", Value.text text)).toList ++
      (stationery.headline.map fun text => ("headline", Value.text text)).toList))

/-- "The stationery cannot be stored: the print would not read it back." -/
inductive Unreadable
  | stationeryUnreadable
  deriving DecidableEq

def storedStationery (stationery : Option Stationery) : Except Unreadable (Option Stationery) :=
  match stationery with
  | none => .ok none
  | some stationery =>
    if stationery.theme = .classic then .ok none
    else
      match stationeryOf u (some stationery.value) with
      | some stored => .ok (some stored)
      | none => .error .stationeryUnreadable

variable {u} {stationery stored : Stationery}

theorem designOf_value (design : StationeryDesign) : designOf (some design.value) = some design := by
  obtain ⟨face, ornament, ruled, tone⟩ := design
  cases face <;> cases ornament <;> cases tone <;> rfl

theorem designOf_map {given : Option StationeryDesign} {design : StationeryDesign}
    (read : designOf (given.map StationeryDesign.value) = some design) : given = some design := by
  cases given with
  | none => cases read
  | some given =>
    rw [Option.map_some, designOf_value] at read
    exact read

/-- What a stationery's value holds under each key. -/
theorem member_value (stationery : Stationery) : ∃ members, stationery.value = .object members ∧
    member members "theme" = some (.text stationery.theme.text) ∧
    member members "design" = stationery.design.map StationeryDesign.value ∧
    member members "name" = stationery.name.map .text ∧
    member members "dateLine" = stationery.dateLine.map .text ∧
    member members "monogram" = stationery.monogram.map .text ∧
    member members "headline" = stationery.headline.map .text := by
  obtain ⟨theme, design, name, dateLine, monogram, headline⟩ := stationery
  refine ⟨_, rfl, rfl, ?_⟩
  cases design <;> cases name <;> cases dateLine <;> cases monogram <;> cases headline <;>
    exact ⟨rfl, rfl, rfl, rfl, rfl⟩

/-- A stationery as it is read back: a custom theme has its design, and a name as it is kept; every slot has a
sensible length. -/
structure ReadBack (u : Classes) (stationery : Stationery) : Prop where
  themed : stationery.theme ≠ .classic
  custom : stationery.theme = .custom → stationery.design.isSome
  built : stationery.theme ≠ .custom → stationery.design = none ∧ stationery.name = none
  name : ∀ name, stationery.name = some name → designNameOf u name = some name
  slots : ∀ slot ∈ [stationery.dateLine, stationery.monogram, stationery.headline], ∀ text, slot = some text →
    units text ≤ STATIONERY_SLOT_MAX_LENGTH

theorem slotOf_text {slot : Option Text}
    (short : ∀ text, slot = some text → units text ≤ STATIONERY_SLOT_MAX_LENGTH) :
    slotOf (slot.map .text) = some slot := by
  cases slot with
  | none => rfl
  | some text =>
    show (if units text ≤ STATIONERY_SLOT_MAX_LENGTH then _ else _) = _
    rw [if_pos (short text rfl)]

theorem slotOf_short {value : Option Value} {slot : Option Text} (read : slotOf value = some slot) :
    ∀ text, slot = some text → units text ≤ STATIONERY_SLOT_MAX_LENGTH := by
  rintro text rfl
  unfold slotOf at read
  split at read
  · cases read
  · cases read
  · split at read
    · cases read
      assumption
    · cases read
  · cases read

theorem slotOf_same {slot read : Option Text} (same : slotOf (slot.map .text) = some read) : read = slot := by
  cases slot with
  | none => exact (Option.some.inj same).symm
  | some text =>
    have same : (if units text ≤ STATIONERY_SLOT_MAX_LENGTH then some (some text) else none) = some read := same
    split at same
    · exact (Option.some.inj same).symm
    · cases same

theorem keptName_text {name : Option Text} (kept : ∀ text, name = some text → designNameOf u text = some text) :
    keptName u (name.map .text) = name := by
  cases name with
  | none => rfl
  | some text =>
    show (if designNameOf u text = some text then _ else _) = _
    rw [if_pos (kept text rfl)]

theorem keptName_kept {value : Option Value} {name : Text} (read : keptName u value = some name) :
    designNameOf u name = some name := by
  unfold keptName at read
  split at read
  · split at read
    · cases read
      assumption
    · cases read
  · cases read

theorem themeOf_custom {members : List (String × Value)} {design : StationeryDesign}
    (theme : member members "theme" = some (.text Theme.custom.text))
    (read : designOf (member members "design") = some design) :
    themeOf u members =
      some { theme := .custom, design := some design, name := keptName u (member members "name") } := by
  unfold themeOf
  rw [theme]
  simp only [if_true]
  rw [read]
  rfl

/-- A custom theme read back has a design that is read. -/
theorem designed {members : List (String × Value)} {themed : Stationery} (read : themeOf u members = some themed)
    (theme : member members "theme" = some (.text Theme.custom.text)) :
    ∃ design, designOf (member members "design") = some design := by
  unfold themeOf at read
  rw [theme] at read
  simp only [if_true] at read
  obtain ⟨design, found, -⟩ := Option.bind_eq_some_iff.mp read
  exact ⟨design, found⟩

theorem themeOf_built {members : List (String × Value)} {theme : Theme} (built : theme ≠ .custom)
    (themed : theme ≠ .classic) (read : member members "theme" = some (.text theme.text)) : themeOf u members = some { theme := theme } := by
  unfold themeOf
  rw [read]
  cases theme with
  | classic => exact absurd rfl themed
  | custom => exact absurd rfl built
  | monogram | botanical | celebration | typewriter | handwritten => rfl

/-- What is read back, stored as it was read, is read back the same. -/
theorem ReadBack.reads (back : ReadBack u stationery) : stationeryOf u (some stationery.value) = some stationery := by
  obtain ⟨members, same, theme, design, name, dateLine, monogram, headline⟩ := member_value stationery
  have first := slotOf_text (back.slots stationery.dateLine (by simp))
  have second := slotOf_text (back.slots stationery.monogram (by simp))
  have third := slotOf_text (back.slots stationery.headline (by simp))
  have themed : themeOf u members =
      some { theme := stationery.theme, design := stationery.design, name := stationery.name } := by
    by_cases custom : stationery.theme = .custom
    · obtain ⟨chosen, has⟩ := Option.isSome_iff_exists.mp (back.custom custom)
      rw [custom] at theme
      rw [has] at design
      have known : designOf (member members "design") = some chosen := by
        rw [design]
        exact designOf_value chosen
      rw [themeOf_custom theme known, name, keptName_text back.name, custom, has]
    · obtain ⟨noDesign, noName⟩ := back.built custom
      rw [themeOf_built custom back.themed theme, noDesign, noName]
  unfold stationeryOf
  rw [same]
  simp only
  rw [themed, dateLine, monogram, headline, first, second, third]
  rfl

/-- Whatever is read back is as it is read back. -/
theorem stationeryOf_readBack {value : Option Value} (read : stationeryOf u value = some stored) :
    ReadBack u stored := by
  unfold stationeryOf at read
  split at read
  · rename_i members
    obtain ⟨themed, theme, rest⟩ := Option.bind_eq_some_iff.mp read
    obtain ⟨dateLine, first, rest⟩ := Option.bind_eq_some_iff.mp rest
    obtain ⟨monogram, second, rest⟩ := Option.bind_eq_some_iff.mp rest
    obtain ⟨headline, third, rest⟩ := Option.bind_eq_some_iff.mp rest
    cases rest
    have slots : ∀ slot ∈ [dateLine, monogram, headline], ∀ text, slot = some text →
        units text ≤ STATIONERY_SLOT_MAX_LENGTH := by
      intro slot inSlots
      simp only [List.mem_cons, List.not_mem_nil, or_false] at inSlots
      rcases inSlots with rfl | rfl | rfl
      · exact slotOf_short first
      · exact slotOf_short second
      · exact slotOf_short third
    unfold themeOf at theme
    split at theme
    · split at theme
      · obtain ⟨design, -, made⟩ := Option.bind_eq_some_iff.mp theme
        cases made
        exact ⟨nofun, fun _ => rfl, fun built => absurd rfl built, fun _ kept => keptName_kept kept, slots⟩
      · obtain ⟨known, found, rest⟩ := Option.bind_eq_some_iff.mp theme
        obtain ⟨_, notClassic, made⟩ := Option.bind_eq_some_iff.mp rest
        cases made
        have listed := List.mem_of_find?_eq_some found
        refine ⟨?_, fun custom => ?_, fun _ => ⟨rfl, rfl⟩, (fun _ none => nomatch none), slots⟩
        · simpa [guard] using notClassic
        · have custom : known = .custom := custom
          subst custom
          exact absurd listed (by decide)
    · cases theme
  · cases read

/-- What a draft stores is read back as it was stored. -/
theorem storedStationery_reads {drawn : Option Stationery} (accepted : storedStationery u drawn = .ok (some stored)) :
    stationeryOf u (some stored.value) = some stored := by
  unfold storedStationery at accepted
  split at accepted
  · cases accepted
  · split at accepted
    · cases accepted
    · split at accepted
      · rename_i read
        cases accepted
        exact (stationeryOf_readBack read).reads
      · cases accepted

/-- It is what was drawn: its theme and slots, a custom theme's design, and the name if that is as it is kept. -/
theorem storedStationery_drawn {drawn : Stationery} (accepted : storedStationery u (some drawn) = .ok (some stored)) :
    stored.theme = drawn.theme ∧ stored.dateLine = drawn.dateLine ∧ stored.monogram = drawn.monogram ∧
      stored.headline = drawn.headline ∧ (drawn.theme = .custom → stored.design = drawn.design ∧
        ∀ name, drawn.name = some name → (stored.name = some name ↔ designNameOf u name = some name)) := by
  unfold storedStationery at accepted
  simp only at accepted
  split at accepted
  · cases accepted
  · rename_i themed
    split at accepted
    · rename_i read
      cases accepted
      obtain ⟨members, same, theme, design, name, dates, initials, heads⟩ := member_value drawn
      unfold stationeryOf at read
      rw [same] at read
      simp only at read
      obtain ⟨themedAs, themes, rest⟩ := Option.bind_eq_some_iff.mp read
      obtain ⟨dateLine, first, rest⟩ := Option.bind_eq_some_iff.mp rest
      obtain ⟨monogram, second, rest⟩ := Option.bind_eq_some_iff.mp rest
      obtain ⟨headline, third, rest⟩ := Option.bind_eq_some_iff.mp rest
      cases rest
      rw [dates] at first
      rw [initials] at second
      rw [heads] at third
      refine ⟨?_, slotOf_same first, slotOf_same second, slotOf_same third, fun custom => ?_⟩
      · by_cases custom : drawn.theme = .custom
        · obtain ⟨chosen, read⟩ := designed themes (custom ▸ theme)
          rw [themeOf_custom (custom ▸ theme) read] at themes
          cases themes
          exact custom.symm
        · rw [themeOf_built custom themed theme] at themes
          cases themes
          rfl
      · obtain ⟨chosen, known⟩ := designed themes (custom ▸ theme)
        rw [themeOf_custom (custom ▸ theme) known] at themes
        cases themes
        rw [design] at known
        refine ⟨?_, fun text has => ?_⟩
        · exact (designOf_map known).symm
        · show keptName u (member members "name") = some text ↔ _
          rw [name, has]
          show (if designNameOf u text = some text then some text else none) = some text ↔ _
          split
          · rename_i kept
            exact ⟨fun _ => kept, fun _ => rfl⟩
          · rename_i dropped
            exact ⟨fun none => (nomatch none), fun kept => absurd kept dropped⟩
    · cases accepted

/-- Each cleaner leaves its own output as it is exactly when the text it clamps is parted; and every stationery a
draft stores is read back equal, as it was drawn. -/
theorem cleaned_again (u : Classes) (text : Text) :
    (clampMarks u.toCharacters (clampMarks u.toCharacters text) = clampMarks u.toCharacters text ↔
      Parted u.toCharacters text) ∧
    (slotText u (slotText u text) = slotText u text ↔ Parted u.toCharacters (slotLine u text)) ∧
    (∀ name, designNameOf u text = some name →
      (designNameOf u name = some name ↔ Parted u.toCharacters (nameStripped u text))) ∧
    ∀ drawn stored, storedStationery u (some drawn) = .ok (some stored) →
      stationeryOf u (some stored.value) = some stored ∧
        stored.theme = drawn.theme ∧ stored.dateLine = drawn.dateLine ∧ stored.monogram = drawn.monogram ∧
        stored.headline = drawn.headline ∧ (drawn.theme = .custom → stored.design = drawn.design ∧
          ∀ name, drawn.name = some name → (stored.name = some name ↔ designNameOf u name = some name)) :=
  ⟨clampMarks_clampMarks text, slotText_slotText text, fun _ kept => designNameOf_designNameOf kept,
    fun _ _ accepted => ⟨storedStationery_reads accepted, storedStationery_drawn accepted⟩⟩

/-! A text that is not parted: a smiling face with four marks, a joiner and a fifth mark, then a face with one. -/

def SMILE : Nat := 0x1F600
def ACUTE : Nat := 0x301
def JOINER : Nat := 0x200D

/-- The properties of its characters, of a space and of the tags. -/
def sampleClasses : Classes where
  clusterBreak c := if c = ACUTE ∨ isTag c = true then .extend else if c = JOINER then .zwj else .other
  conjunctBreak c := if c = ACUTE ∨ c = JOINER ∨ isTag c = true then .extend else .none
  pictographic c := c == SMILE || c == BLACK_FLAG
  mark c := c == ACUTE
  space c := c == 0x20
  separator _ := false
  nonsense _ := false
  formatting _ := false
  visible c := c == SMILE || c == BLACK_FLAG
  mark_break c marked := by
    rw [beq_iff_eq] at marked
    subst marked
    exact .inl rfl
  linker_mark c linker := by
    split at linker <;> cases linker
  pictographic_plain c pictograph := by
    rw [Bool.or_eq_true, beq_iff_eq, beq_iff_eq] at pictograph
    rcases pictograph with rfl | rfl <;> decide
  consonant_plain c consonant := by
    split at consonant <;> cases consonant
  space_plain c white := by
    rw [beq_iff_eq] at white
    subst white
    decide
  blank := by decide
  tag_plain c tag := by
    rcases tag with tag | rfl
    · have range : 0xE0020 ≤ c ∧ c ≤ 0xE007F := by simpa [isTag] using tag
      simp only [beq_eq_false_iff_ne, ACUTE]
      omega
    · decide

def twoSmiles : Text := [SMILE, ACUTE, ACUTE, ACUTE, ACUTE, JOINER, ACUTE, SMILE, ACUTE]

/-- The fifth mark gone, the joiner joins the faces, and the second pass takes out the other face's mark. -/
theorem twoSmiles_rejoin :
    clampMarks sampleClasses.toCharacters twoSmiles = [SMILE, ACUTE, ACUTE, ACUTE, ACUTE, JOINER, SMILE, ACUTE] ∧
    clampMarks sampleClasses.toCharacters (clampMarks sampleClasses.toCharacters twoSmiles) =
      [SMILE, ACUTE, ACUTE, ACUTE, ACUTE, JOINER, SMILE] ∧
    slotText sampleClasses (slotText sampleClasses twoSmiles) ≠ slotText sampleClasses twoSmiles ∧
    ∃ name, designNameOf sampleClasses twoSmiles = some name ∧ designNameOf sampleClasses name ≠ some name :=
  ⟨by decide +kernel, by decide +kernel, by decide +kernel,
    ⟨[SMILE, ACUTE, ACUTE, ACUTE, ACUTE, JOINER, SMILE, ACUTE], by decide +kernel, by decide +kernel⟩⟩

/-- A plain name in a design's stationery is kept, stored and read back. -/
theorem smile_kept : designNameOf sampleClasses [SMILE] = some [SMILE] :=
  ((cleaned_again sampleClasses [SMILE]).2.2.1 [SMILE] (by decide +kernel)).mpr (.singleton _)

end LetterIRL.Themes
