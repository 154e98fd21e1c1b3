import FwVerify.Lib.LastMatch
import FwVerify.Model.Exec

/-!
# The document in a noisy output

A worker prints one document on a line of its own, and other programs may write around it. The
search commits itself to the last line that looks like a document, so a line of the log that opens
a bracket hides the document in front of it; and an output that is a document as a whole is taken
as a whole.

## Main definitions

* `LoneObject` — an output with one line that is a document, and an object

## Main results

* `parseJson_of_last` — the line the search commits itself to
* `lone_object_found_iff` — when the object on a line is what is found
-/

set_option autoImplicit false

namespace FwVerify

open LastMatch Text

variable {json : JsonParser} {stdout : String}

/-- A line that is an object looks like a document. -/
theorem looksLikeJson_of_object {line : String} {fields : List (String × Value)}
    (hobject : json.fromStr (trim line) = .ok (.object fields)) :
    looksLikeJson (trim line) = true := by
  have hbrace := json.brace hobject
  have hwhite (c : Char) (hc : isJsonWhite c = true) : isWhite c = true := by
    simp only [isJsonWhite, Bool.or_eq_true, beq_iff_eq] at hc
    rcases hc with ((rfl | rfl) | rfl) | rfl <;> decide
  cases hchars : (trim line).toList with
  | nil =>
    rw [hchars] at hbrace
    cases hbrace
  | cons c later =>
    have hhead : (trim line).toList.head? = some c := by rw [hchars, List.head?_cons]
    have hkept : ¬ isJsonWhite c = true := by
      intro hc
      have hwhite' := hwhite c hc
      rw [isWhite_head_trim hhead] at hwhite'
      cases hwhite'
    rw [hchars, skipWhite, List.dropWhile_cons_of_neg hkept, ← hchars] at hbrace
    rw [looksLikeJson, hbrace]
    rfl

/-- An output that is a document as a whole is taken as a whole. -/
theorem parseJson_of_whole {value : Value} (hwhole : json.fromStr (trim stdout) = .ok value) :
    parseJson json stdout = .ok value := by
  rw [parseJson, hwhole]

/-- Otherwise the last line that looks like a document decides. -/
theorem parseJson_of_last {before after : List String} {line error : String}
    (hwhole : json.fromStr (trim stdout) = .error error)
    (hsplit : lines stdout = before ++ line :: after) (hline : looksLikeJson (trim line) = true)
    (hafter : ∀ other ∈ after, looksLikeJson (trim other) = false) :
    parseJson json stdout =
      Fallible.context "failed to parse JSON output" (json.fromStr (trim line)) := by
  have hfind : ((lines stdout).reverse.map trim).find? looksLikeJson = some (trim line) := by
    rw [hsplit, List.map_reverse, List.map_append, List.map_cons]
    refine find?_reverse_of_last hline fun other hother => ?_
    obtain ⟨raw, hraw, rfl⟩ := List.mem_map.mp hother
    exact hafter raw hraw
  rw [parseJson, hwhole]
  dsimp only
  rw [hfind]

/-- An output in which exactly one line, trimmed, is a document, and that document an object. -/
structure LoneObject (json : JsonParser) (stdout : String) (before : List String) (line : String)
    (after : List String) (fields : List (String × Value)) : Prop where
  split : lines stdout = before ++ line :: after
  object : json.fromStr (trim line) = .ok (.object fields)
  others : ∀ other ∈ before ++ after, ∃ error, json.fromStr (trim other) = .error error

section LoneObject

variable {before after : List String} {line : String} {fields : List (String × Value)}

/-- The object is found when nothing behind it looks like a document. -/
theorem LoneObject.found (h : LoneObject json stdout before line after fields) {error : String}
    (hwhole : json.fromStr (trim stdout) = .error error)
    (hafter : ∀ other ∈ after, looksLikeJson (trim other) = false) :
    parseJson json stdout = .ok (.object fields) := by
  rw [parseJson_of_last hwhole h.split (looksLikeJson_of_object h.object) hafter, h.object]
  rfl

/-- Health queries and workers give the object, whatever the program ended with and whatever it
wrote to its error output. -/
theorem LoneObject.outputJson (h : LoneObject json stdout before line after fields)
    {error : String} (hwhole : json.fromStr (trim stdout) = .error error)
    (hafter : ∀ other ∈ after, looksLikeJson (trim other) = false) (what : String) (code : Int32)
    (stderr : String) :
    FwVerify.outputJson json what (.ok ⟨code, stdout, stderr⟩) = .ok (.object fields) :=
  outputJson_ok_iff.mpr ⟨_, rfl, h.found hwhole hafter⟩

/-- **When the object on a line is found.** It is found exactly when the output as a whole is a
document of that value, or is no document and no line behind the object looks like one. -/
theorem lone_object_found_iff (h : LoneObject json stdout before line after fields) :
    parseJson json stdout = .ok (.object fields) ↔
      json.fromStr (trim stdout) = .ok (.object fields) ∨
      (∃ error, json.fromStr (trim stdout) = .error error) ∧
        ∀ other ∈ after, looksLikeJson (trim other) = false := by
  constructor
  · intro hfound
    cases hwhole : json.fromStr (trim stdout) with
    | ok value =>
      rw [parseJson_of_whole hwhole] at hfound
      exact .inl hfound
    | error error =>
      refine .inr ⟨⟨error, rfl⟩, ?_⟩
      rcases forall_not_or_exists_last (fun other => looksLikeJson (trim other) = true) after
        with hnone | ⟨between, other, rest, hafter, hother, hrest⟩
      · intro other hother
        exact Bool.eq_false_iff.mpr (hnone other hother)
      · -- the search commits itself to a line that is no document
        have hsplit : lines stdout = (before ++ line :: between) ++ other :: rest := by
          rw [h.split, hafter, List.append_assoc, List.cons_append]
        have hmem : other ∈ before ++ after := by
          rw [hafter]
          exact List.mem_append_right _ (List.mem_append_right _ List.mem_cons_self)
        obtain ⟨error', herror⟩ := h.others other hmem
        rw [parseJson_of_last hwhole hsplit hother fun y hy => Bool.eq_false_iff.mpr (hrest y hy),
          herror] at hfound
        cases hfound
  · rintro (hwhole | ⟨⟨error, hwhole⟩, hafter⟩)
    · exact parseJson_of_whole hwhole
    · exact h.found hwhole hafter

end LoneObject

/-- A document between two lines of a log. -/
theorem lone_object_found_between_logs :
    parseJson jsonParser "starting\n\x7b\"ok\": true\x7d\ndone" =
      .ok (.object [("ok", .bool true)]) := by
  have hlone : LoneObject jsonParser "starting\n\x7b\"ok\": true\x7d\ndone" ["starting"]
      "\x7b\"ok\": true\x7d" ["done"] [("ok", .bool true)] := by
    refine ⟨by decide, rfl, ?_⟩
    exact List.forall_mem_cons.mpr ⟨⟨_, rfl⟩, List.forall_mem_singleton.mpr ⟨_, rfl⟩⟩
  exact (lone_object_found_iff hlone).mpr (.inr ⟨⟨_, rfl⟩, by decide⟩)

/-- A line of a log that begins with its level hides the object in front of it. -/
theorem lone_object_hidden :
    ¬ ∀ (json : JsonParser) (stdout : String) (before : List String) (line : String)
      (after : List String) (fields : List (String × Value)),
      LoneObject json stdout before line after fields →
        parseJson json stdout = .ok (.object fields) := by
  intro hfound
  have hlone : LoneObject jsonParser "\x7b\"ok\": true\x7d\n[INFO] done" []
      "\x7b\"ok\": true\x7d" ["[INFO] done"] [("ok", .bool true)] :=
    ⟨by decide, rfl, List.forall_mem_singleton.mpr ⟨_, rfl⟩⟩
  have hparse := hfound _ _ _ _ _ _ hlone
  have hhidden : parseJson jsonParser "\x7b\"ok\": true\x7d\n[INFO] done" =
    .error "failed to parse JSON output: no JSON document" := rfl
  rw [hhidden] at hparse
  cases hparse

end FwVerify
