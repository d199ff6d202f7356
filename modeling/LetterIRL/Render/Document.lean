import LetterIRL.Render.Items

namespace LetterIRL.Render

/-! The document a letter's pages are shown in, and its pages read back. -/

/-- `text.replace(/unit/g, written)` -/
def replaced (unit : Nat) (written : String) (text : Text) : Text :=
  text.flatMap fun other => if other = unit then units written else [other]

def escapeHtml (text : Text) : Text :=
  replaced 39 "&#039;" (replaced 34 "&quot;" (replaced 62 "&gt;" (replaced 60 "&lt;" (replaced 38 "&amp;" text))))

def join (separator : Text) : List Text → Text
  | [] => []
  | [piece] => piece
  | piece :: more => piece ++ separator ++ join separator more

/-- What `rendererDocument` writes before the version. -/
def DOCUMENT_HEAD : Text :=
  units "<!DOCTYPE html>\n<html>\n<head>\n" ++
  units "  <meta charset=\"UTF-8\">\n" ++
  units "  <meta name=\"viewport\" content=\"width=device-width, initial-scale=1\">\n" ++
  units "  <style>\n" ++
  units "    html, body \x7b margin: 0; background: #fff; \x7d\n" ++
  units "    body > svg \x7b display: block; width: 100%; height: auto; \x7d\n" ++
  units "    body > svg + svg \x7b margin-top: 12px; \x7d\n" ++
  units "  </style>\n</head>\n" ++
  units "<body data-renderer=\""

def rendererDocument (pages : List Text) (version after : Text) : Text :=
  DOCUMENT_HEAD ++ version ++ units "\">\n" ++ join (units "\n") pages ++ units "\n" ++ after ++ units "</body>\n</html>"

/-- The words of a letter, kept in its document beside the pages. -/
structure LetterWords where
  bodyText : Text
  signOff : Text
  deriving DecidableEq

/-- `bodyText.replace(/\n+$/, '')` -/
def trimmedBodyText (bodyText : Text) : Text := (bodyText.reverse.dropWhile (· == 10)).reverse

def hiddenWords (words : LetterWords) : Text :=
  units "  <div hidden>\n    <div class=\"letter-body\">" ++ escapeHtml (trimmedBodyText words.bodyText) ++
    units "</div>\n    <div class=\"sign-off\">" ++ escapeHtml words.signOff ++ units "</div>\n  </div>\n"

def renderLetterPreviewDocument (pages : List Text) (words : LetterWords) (version : Text) : Text :=
  rendererDocument pages version (hiddenWords words)

variable {pages : List Text} {version after text : Text}

theorem replaced_plain {unit : Nat} {written : String} (kept : 60 ∉ text) (plain : 60 ∉ units written) :
    60 ∉ replaced unit written text := by
  intro member
  obtain ⟨other, read, shown⟩ := List.mem_flatMap.mp member
  split at shown
  · exact plain shown
  · rw [List.mem_singleton.mp shown] at kept
    exact kept read

theorem escapeHtml_plain (text : Text) : 60 ∉ escapeHtml text := by
  have escaped : 60 ∉ replaced 60 "&lt;" (replaced 38 "&amp;" text) := by
    intro member
    obtain ⟨other, _, shown⟩ := List.mem_flatMap.mp member
    split at shown
    · exact absurd shown (by decide)
    · rename_i different
      exact different (List.mem_singleton.mp shown).symm
  exact replaced_plain (replaced_plain (replaced_plain escaped (by decide)) (by decide)) (by decide)

theorem hiddenWords_silent (words : LetterWords) : silent (hiddenWords words) = true := by
  have body := silent_plain (escapeHtml_plain (trimmedBodyText words.bodyText))
  have signOff := silent_plain (escapeHtml_plain words.signOff)
  exact silent_append (silent_append (silent_append (silent_append (by decide +kernel) body) (by decide +kernel)) signOff)
    (by decide +kernel)

/-- The pages of a document are read from where the first of them begins. -/
theorem topLevel_pages {html before : Text} (start : Nat) (whole : html = before ++ join (units "\n") pages ++ after)
    (each : ∀ page ∈ pages, Balanced page) (quiet : silent after = true) :
    topLevel html before.length 0 start (join (units "\n") pages ++ after) = pages := by
  have ended (index start : Nat) : topLevel html index 0 start after = [] := by
    rw [← List.append_nil after, topLevel_silent html quiet]
    rfl
  induction pages generalizing before start with
  | nil => exact ended _ _
  | cons page more ih =>
    have balanced := each page List.mem_cons_self
    cases more with
    | nil =>
      rw [show join (units "\n") [page] = page from rfl] at whole ⊢
      rw [topLevel_balanced html balanced, ended, whole, slice_append]
    | cons next more =>
      have read : join (units "\n") (page :: next :: more) ++ after =
          page ++ (units "\n" ++ (join (units "\n") (next :: more) ++ after)) := by
        show page ++ units "\n" ++ join (units "\n") (next :: more) ++ after = _
        simp only [List.append_assoc]
      have further : html = before ++ page ++ units "\n" ++ join (units "\n") (next :: more) ++ after := by
        rw [whole, List.append_assoc, read]
        simp only [List.append_assoc]
      have rest := ih before.length further
        (fun other member => each other (List.mem_cons_of_mem _ member))
      rw [read, topLevel_balanced html balanced, topLevel_silent html (by decide), ← List.length_append,
        ← List.length_append, rest]
      refine congrArg (· :: _) ?_
      rw [further, List.length_append, List.append_assoc (before ++ page), List.append_assoc (before ++ page), slice_append]

theorem head_silent : silent DOCUMENT_HEAD = true := by
  unfold DOCUMENT_HEAD
  repeat' apply silent_append
  all_goals decide +kernel

/-- The pages of a document are the elements it was made of, whatever closes its body. -/
theorem rendererDocumentPages_document (each : ∀ page ∈ pages, Balanced page) (plain : 60 ∉ version)
    (quiet : silent after = true) : rendererDocumentPages (some (rendererDocument pages version after)) = pages := by
  have closing : silent (units "\n" ++ after ++ units "</body>\n</html>") = true :=
    silent_append (silent_append (by decide) quiet) (by decide)
  have opening : silent (DOCUMENT_HEAD ++ version ++ units "\">\n") = true :=
    silent_append (silent_append head_silent (silent_plain plain)) (by decide)
  have whole : rendererDocument pages version after = DOCUMENT_HEAD ++ version ++ units "\">\n" ++
      join (units "\n") pages ++ (units "\n" ++ after ++ units "</body>\n</html>") := by
    simp only [rendererDocument, List.append_assoc]
  have ours : RENDERER_MARK <:+: rendererDocument pages version after := by
    have head : RENDERER_MARK <:+ DOCUMENT_HEAD := List.suffix_append _ _
    have begun : DOCUMENT_HEAD <+: rendererDocument pages version after := by
      simp only [rendererDocument, List.append_assoc]
      exact List.prefix_append _ _
    exact head.isInfix.trans begun.isInfix
  rw [rendererDocumentPages, if_pos ours]
  have begun := topLevel_pages 0 whole each closing
  let html := rendererDocument pages version after
  let rest := join (units "\n") pages ++ (units "\n" ++ after ++ units "</body>\n</html>")
  have passed : topLevel html 0 0 0 (DOCUMENT_HEAD ++ version ++ units "\">\n" ++ rest) =
      topLevel html (0 + (DOCUMENT_HEAD ++ version ++ units "\">\n").length) 0 0 rest := topLevel_silent html opening
  rw [Nat.zero_add, begun, ← List.append_assoc, ← whole] at passed
  exact passed

end LetterIRL.Render
