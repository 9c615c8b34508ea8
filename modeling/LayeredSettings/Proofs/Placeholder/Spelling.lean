import LayeredSettings.Proofs.Placeholder.Splicing
import LayeredSettings.Text.Identifier

namespace LayeredSettings

/-- A placeholder with its inside. -/
def enclosed (body : String) : String := "$\x7b" ++ body ++ "\x7d"

/-- A text that can stand for a name without being taken apart: it holds no separator, no closing brace and no line
end. -/
def IsWord (name : List Char) : Prop := ∀ c ∈ name, c ≠ '.' ∧ c ≠ ':' ∧ c ≠ '}' ∧ c ≠ '\n'

/-- A text is read as one placeholder for a reference, from its beginning to its end: it is found as such, and
every pass puts the value of the reference in its place, or keeps it if there is none. -/
structure ReadsAs (text : String) (reference : Reference) : Prop where
  found : findPlaceholders text = [⟨0, text.length, reference⟩]
  replaced : ∀ (context : Context) (overrides : Entries String EnvOverride) (template : String),
    context.passOver overrides template text =
      (context.lookup? overrides (decide (text = template)) reference).getD text

namespace IsWord

variable {name : List Char}

theorem isBody (word : IsWord name) : IsBody name :=
  ⟨fun member => (word _ member).2.2.1 rfl, fun member => (word _ member).2.2.2 rfl⟩

theorem isName (word : IsWord name) : IsName name name :=
  .inr (.inr ⟨rfl, fun c first =>
    have own := word c (List.mem_of_mem_head? first)
    ⟨own.1, own.2.1⟩⟩)

theorem of_append {front : List Char} (word : IsWord (front ++ name)) : IsWord name :=
  fun c member => word c (List.mem_append_right front member)

/-- An identifier holds nothing that could take it apart. -/
theorem of_isIdentifier (identifier : isIdentifier name = true) : IsWord name := by
  have marks : (['.', ':', '}', '\n'].all fun c => !isIdentifierContinue c) = true := by decide +kernel
  cases name with
  | nil => simp [isIdentifier] at identifier
  | cons first rest =>
    simp only [isIdentifier, Bool.and_eq_true, List.all_eq_true] at identifier
    have continues (c : Char) (member : c ∈ first :: rest) : isIdentifierContinue c = true := by
      rcases List.mem_cons.mp member with rfl | later
      · simp [isIdentifierContinue, identifier.1]
      · exact identifier.2 c later
    intro c member
    have own := continues c member
    refine ⟨?_, ?_, ?_, ?_⟩ <;> rintro rfl <;> simp_all

end IsWord

theorem toList_enclosed (body : String) : (enclosed body).toList = '$' :: '{' :: body.toList ++ ['}'] := by
  simp [enclosed]

theorem findPlaceholders_enclosed {body : String} (inside : IsBody body.toList) :
    findPlaceholders (enclosed body) = [⟨0, (enclosed body).length, .ofBody body.toList⟩] := by
  have length : (enclosed body).length = body.toList.length + 3 := by
    rw [← String.length_toList, toList_enclosed]
    simp
  rw [length, ← findPlaceholders_of_body inside, ← toList_enclosed, String.ofList_toList]

theorem readsAs_enclosed {body : String} (inside : IsBody body.toList) :
    ReadsAs (enclosed body) (.ofBody body.toList) where
  found := findPlaceholders_enclosed inside
  replaced context overrides template := by
    have opens : Opens (enclosed body).toList body.toList [] := ⟨inside, toList_enclosed body⟩
    have text : (Piece.hole body.toList).text = (enclosed body).toList := (toList_enclosed body).symm
    have filled : context.pass overrides template.toList (enclosed body).toList =
        context.fill overrides template.toList (.hole body.toList) := by
      simp [Context.pass, pieces_of_opens opens, pieces]
    rw [Context.passOver, filled, Context.fill, text]
    simp only [String.toList_inj]
    cases context.lookup? overrides (decide (enclosed body = template)) (.ofBody body.toList) <;> simp

theorem readsAs_enclosed_iff {body : String} (inside : IsBody body.toList) {reference : Reference} :
    ReadsAs (enclosed body) reference ↔ RefersTo body.toList reference := by
  rw [refersTo_iff]
  constructor
  · intro reads
    have found := reads.found
    rw [findPlaceholders_enclosed inside] at found
    simpa using found.symm
  · rintro rfl
    exact readsAs_enclosed inside

theorem isBody_append {front back : List Char} : IsBody (front ++ back) ↔ IsBody front ∧ IsBody back := by
  simp only [IsBody, List.mem_append, not_or]
  exact and_and_and_comm

/-- Behind a tag and a separator a word is a name of the source that the tag belongs to. -/
theorem IsWord.readsAs_tagged {name : String} (word : IsWord name.toList) (source : Source) {separator : String}
    (mark : separator = "." ∨ separator = ":" ∨ separator = "") :
    ReadsAs (enclosed (source.tag ++ separator ++ name)) ⟨source, name⟩ := by
  have tag : IsBody source.tag.toList := by cases source <;> simp [IsBody, Source.tag]
  have inside : IsBody separator.toList := by rcases mark with rfl | rfl | rfl <;> simp [IsBody]
  have named : IsName (separator.toList ++ name.toList) name.toList := by
    rcases mark with rfl | rfl | rfl
    · exact .inl (by simp)
    · exact .inr (.inl (by simp))
    · simpa using word.isName
  have whole : (source.tag ++ separator ++ name).toList = source.tag.toList ++ (separator.toList ++ name.toList) := by
    simp
  rw [readsAs_enclosed_iff, whole]
  · exact .tagged rfl named
  · rw [whole]
    exact isBody_append.mpr ⟨tag, isBody_append.mpr ⟨inside, word.isBody⟩⟩

/-- A word alone is read as a name of the environment unless it begins with a tag. -/
theorem IsWord.readsAs_bare_iff {name : String} (word : IsWord name.toList) :
    ReadsAs (enclosed name) ⟨.environment, name⟩ ↔ ∀ source : Source, ¬ source.tag.toList <+: name.toList := by
  rw [readsAs_enclosed_iff word.isBody]
  constructor
  · intro refers source leads
    obtain ⟨rest, whole⟩ := leads
    have tagged : RefersTo name.toList ⟨source, String.ofList rest⟩ := by
      refine .tagged whole.symm ?_
      rw [String.toList_ofList]
      exact (whole ▸ word).of_append.isName
    have same := (refersTo_iff.mp refers).trans (refersTo_iff.mp tagged).symm
    have length := congrArg (fun reference : Reference => reference.name.toList.length) same
    simp only [String.toList_ofList, ← whole, List.length_append] at length
    cases source <;> simp [Source.tag] at length
  · exact fun bare => .bare bare word.isName

/-- Behind its tag, with a colon or a point in between, a word is read as the name of an environment variable. Alone
it is read so as well, and by the same look-up, if and only if it begins with none of the tags. If it begins with
one, the rest of it is read as a name of the source that the tag belongs to. -/
theorem bare_name {name : String} (word : IsWord name.toList) :
    ReadsAs (enclosed ("env:" ++ name)) ⟨.environment, name⟩ ∧
    ReadsAs (enclosed ("env." ++ name)) ⟨.environment, name⟩ ∧
    (ReadsAs (enclosed name) ⟨.environment, name⟩ ↔ ∀ source : Source, ¬ source.tag.toList <+: name.toList) ∧
    ∀ (source : Source) (rest : String), name = source.tag ++ rest → ReadsAs (enclosed name) ⟨source, rest⟩ := by
  have colon : "env:" = Source.environment.tag ++ ":" := by decide
  have point : "env." = Source.environment.tag ++ "." := by decide
  rw [colon, point]
  refine ⟨word.readsAs_tagged .environment (.inr (.inl rfl)), word.readsAs_tagged .environment (.inl rfl),
    word.readsAs_bare_iff, ?_⟩
  rintro source rest rfl
  rw [String.toList_append] at word
  have reads := word.of_append.readsAs_tagged source (.inr (.inr rfl))
  rwa [String.append_empty] at reads

/-- A word that begins with no tag, and with which one begins. -/
theorem bare_name_plain : IsWord "en".toList ∧ (∀ source : Source, ¬ source.tag.toList <+: "en".toList) ∧
    ReadsAs (enclosed "en") ⟨.environment, "en"⟩ ∧ ReadsAs (enclosed "env:en") ⟨.environment, "en"⟩ ∧
    ReadsAs (enclosed "env.en") ⟨.environment, "en"⟩ := by
  have word : IsWord "en".toList := .of_isIdentifier (by decide +kernel)
  have bare (source : Source) : ¬ source.tag.toList <+: "en".toList := by cases source <;> decide
  obtain ⟨colon, point, alone, _⟩ := bare_name word
  exact ⟨word, bare, alone.mpr bare, colon, point⟩

/-- A variable with a name that begins with a tag. -/
def enveloped : Context where
  environment := [("envelope", "x")]

/-- Its placeholder without a tag is read as one for what remains of the name, which is not set. -/
theorem bare_name_tagged : isIdentifier "envelope".toList = true ∧ "envelope" ∉ Source.all.map Source.tag ∧
    findPlaceholders (enclosed "envelope") = [⟨0, 11, ⟨.environment, "elope"⟩⟩] ∧
    ¬ ReadsAs (enclosed "envelope") ⟨.environment, "envelope"⟩ ∧
    enveloped.passes [] 1 (enclosed "env:envelope") = ["x"] ∧
    enveloped.passes [] 1 (enclosed "envelope") = [enclosed "envelope"] := by
  have found : findPlaceholders (enclosed "envelope") = [⟨0, 11, ⟨.environment, "elope"⟩⟩] := by decide +kernel
  refine ⟨by decide +kernel, by decide, found, fun reads => ?_, by decide +kernel, by decide +kernel⟩
  have other := reads.found
  rw [found] at other
  simp at other

end LayeredSettings
