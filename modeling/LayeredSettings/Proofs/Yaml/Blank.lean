import LayeredSettings.Proofs.Yaml.KeysApart

namespace LayeredSettings

namespace Yaml

/-- A text of nothing but white space. -/
def AllBlank (s : List Char) : Prop := ∀ c ∈ s, isBlank c = true

theorem ne_of_isBlank {c mark : Char} (blank : isBlank c = true) (solid : isBlank mark = false) : c ≠ mark := by
  rintro rfl
  rw [blank] at solid
  cases solid

section Plain

variable {s rest : List Char} {c : Char} {inFlow : Bool}

theorem AllBlank.of_cons (blank : AllBlank (c :: s)) : AllBlank s := fun d member => blank d (List.mem_cons_of_mem _ member)

theorem allBlank_nil : AllBlank [] := List.forall_mem_nil _

theorem allBlank_cons : AllBlank (c :: s) ↔ isBlank c = true ∧ AllBlank s := List.forall_mem_cons

theorem allBlank_append : AllBlank (s ++ rest) ↔ AllBlank s ∧ AllBlank rest := List.forall_mem_append

theorem AllBlank.sublist (blank : AllBlank s) (part : List.Sublist rest s) : AllBlank rest :=
  fun c member => blank c (part.subset member)

theorem isBlank_breakChar (blank : isBlank c = true) : isBlank (breakChar c) = true := by
  unfold breakChar
  split
  · exact blank
  · rfl

theorem AllBlank.takeBreak? (blank : AllBlank s) (taken : takeBreak? s = some (c, rest)) :
    isBlank c = true ∧ AllBlank rest := by
  unfold Yaml.takeBreak? at taken
  split at taken
  · cases taken
    exact ⟨rfl, blank.of_cons.of_cons⟩
  · split at taken
    · cases taken
      exact ⟨isBlank_breakChar (blank _ (List.mem_cons_self ..)), blank.of_cons⟩
    · cases taken
  · cases taken

theorem plainWord_append (inFlow : Bool) (s : List Char) : (plainWord inFlow s).1 ++ (plainWord inFlow s).2 = s := by
  fun_induction plainWord inFlow s with
  | case1 => rfl
  | case2 => rfl
  | case3 c rest ends word after eq ih => simp_all

theorem AllBlank.plainWord (blank : AllBlank s) (inFlow : Bool) :
    AllBlank (plainWord inFlow s).1 ∧ AllBlank (plainWord inFlow s).2 := by
  rw [← plainWord_append inFlow s] at blank
  exact allBlank_append.mp blank

theorem AllBlank.plainLines (blank : AllBlank s) (column : Nat) :
    (∀ breaks, (plainLines column s).1 = some breaks → AllBlank breaks) ∧ AllBlank (plainLines column s).2.2 := by
  have prepend {first : Char} {breaks : Option (List Char)} (own : isBlank first = true)
      (more : ∀ s, breaks = some s → AllBlank s) (s : List Char) (given : breaks.map (first :: ·) = some s) :
      AllBlank s := by
    obtain ⟨rest, some, rfl⟩ := Option.map_eq_some_iff.mp given
    exact allBlank_cons.mpr ⟨own, more rest some⟩
  have nothing (s : List Char) (given : some [] = some s) : AllBlank s := by
    cases given
    exact allBlank_nil
  have absent (s : List Char) (given : none = some s) : AllBlank s := by cases given
  fun_induction Yaml.plainLines column s with
  | case1 column rest ih => exact ih blank.of_cons
  | case2 column rest border => exact ⟨absent, blank.of_cons.of_cons⟩
  | case3 column rest inner breaks column' behind eq ih =>
    rw [eq] at ih
    exact ⟨prepend rfl (ih blank.of_cons.of_cons).1, (ih blank.of_cons.of_cons).2⟩
  | case4 => exact ⟨absent, blank.of_cons⟩
  | case5 column c rest _ _ line inner breaks column' behind eq ih =>
    rw [eq] at ih
    have own := isBlank_breakChar (blank c (List.mem_cons_self ..))
    exact ⟨prepend own (ih blank.of_cons).1, (ih blank.of_cons).2⟩
  | case6 => exact ⟨nothing, blank⟩
  | case7 => exact ⟨nothing, blank⟩

theorem AllBlank.plainGap (blank : AllBlank s) (inFlow : Bool) (indent : Nat) :
    (∀ text, (plainGap inFlow indent s).text = some text → AllBlank text) ∧ AllBlank (plainGap inFlow indent s).rest := by
  have spaces : AllBlank (s.takeWhile (· == ' ')) := blank.sublist (List.takeWhile_sublist _)
  have behind : AllBlank (s.dropWhile (· == ' ')) := blank.sublist (List.dropWhile_sublist _)
  simp only [Yaml.plainGap]
  split
  · refine ⟨fun text given => ?_, behind⟩
    have some := (Option.ite_none_left_eq_some.mp (Option.ite_none_left_eq_some.mp given).2).2
    cases some
    exact spaces
  · next c rest taken =>
    obtain ⟨own, later⟩ := behind.takeBreak? taken
    split
    · refine ⟨fun text given => ?_, later⟩
      cases (Option.ite_none_left_eq_some.mp given).2
    · obtain ⟨added, last⟩ := later.plainLines 0
      refine ⟨fun text given => ?_, last⟩
      have map := (Option.ite_none_left_eq_some.mp (Option.ite_none_left_eq_some.mp given).2).2
      obtain ⟨breaks, some, rfl⟩ := Option.map_eq_some_iff.mp map
      have more := added breaks some
      split
      · exact allBlank_cons.mpr ⟨own, more⟩
      · split
        · exact allBlank_cons.mpr ⟨rfl, allBlank_nil⟩
        · exact more

/-- A plain scalar of a blank text is blank itself. -/
theorem AllBlank.plainScalar (blank : AllBlank s) (inFlow : Bool) (indent : Nat) :
    AllBlank (plainScalar inFlow indent s).1 := by
  fun_induction Yaml.plainScalar inFlow indent s with
  | case1 => exact allBlank_nil
  | case2 s some word gap none => exact (blank.plainWord inFlow).1
  | case3 s some word gap between joins shorter more last eq empty ih => exact (blank.plainWord inFlow).1
  | case4 s some word gap between joins shorter more last eq goesOn ih =>
    obtain ⟨own, behind⟩ := blank.plainWord inFlow
    obtain ⟨added, later⟩ := behind.plainGap inFlow indent
    rw [eq] at ih
    exact allBlank_append.mpr ⟨allBlank_append.mpr ⟨own, added between joins⟩, ih later⟩

end Plain

/-- A token that a blank text can have: a scalar of blanks, or the fault that ends it. -/
def Token.OfBlank (t : Token) : Prop := (∃ text, t = .scalar true text ∧ AllBlank text) ∨ t = .fault .malformed

/-- A place in a blank text: no collection is open there. -/
structure TokenState.InBlank (s : TokenState) : Prop where
  rest : AllBlank s.cursor.rest
  depth : s.depth = 0
  columns : s.columns = []
  tokens : ∀ t ∈ s.tokens, t.OfBlank

theorem Cursor.rest_advance (c : Cursor) : c.advance.rest = c.rest.drop 1 := by
  unfold advance
  split
  · next ended => simp [ended]
  · next ch rest more => split <;> simp [more]

theorem Cursor.mem_of_mem_moveTo {c : Cursor} {rest : List Char} {ch : Char} (member : ch ∈ (c.moveTo rest).rest) :
    ch ∈ c.rest := by
  unfold moveTo at member
  generalize List.range (c.rest.length - rest.length) = steps at member
  induction steps generalizing c with
  | nil => exact member
  | cons step steps ih =>
    have later := ih member
    rw [Cursor.rest_advance] at later
    exact List.mem_of_mem_drop later

namespace TokenReader

variable {α β : Type}

/-- In a blank text a reader does not find more than blanks, and fails only for what is not well formed. -/
def Keeps (reader : TokenReader α) : Prop :=
  ∀ s : TokenState, s.InBlank → ∀ result s', reader.run.run s = (result, s') →
    s'.InBlank ∧ ∀ f, result = .error f → f = .malformed

theorem Keeps.pure (a : α) : Keeps (pure a) := by
  rintro s blank _ _ ⟨⟩
  exact ⟨blank, fun _ none => nomatch none⟩

theorem Keeps.malformed : Keeps (malformed : TokenReader α) := by
  rintro s blank _ _ ⟨⟩
  refine ⟨blank, fun f own => ?_⟩
  cases own
  rfl

theorem Keeps.modify {f : TokenState → TokenState} (kept : ∀ s, s.InBlank → (f s).InBlank) :
    Keeps (modify f : TokenReader Unit) := by
  rintro s blank _ _ ⟨⟩
  exact ⟨kept s blank, fun _ none => nomatch none⟩

theorem Keeps.bind {reader : TokenReader α} {next : α → TokenReader β} (first : Keeps reader)
    (later : ∀ a, Keeps (next a)) : Keeps (reader >>= next) := by
  intro s blank result s' ran
  rw [ExceptT.run_bind, StateT.run_bind] at ran
  rcases step : reader.run.run s with ⟨f | a, between⟩
  · rw [step] at ran
    cases ran
    obtain ⟨kept, known⟩ := first s blank _ _ step
    refine ⟨kept, fun f' own => ?_⟩
    cases own
    exact known f rfl
  · rw [step] at ran
    exact later a between (first s blank _ _ step).1 _ _ ran

theorem Keeps.ite {p : Prop} [Decidable p] {reader other : TokenReader α} (first : Keeps reader) (second : Keeps other) :
    Keeps (if p then reader else other) := by
  split
  · exact first
  · exact second

/-- What is done with the state may depend on it. -/
theorem Keeps.get_bind {next : TokenState → TokenReader α} (kept : ∀ s, s.InBlank → Keeps (next s)) :
    Keeps (get >>= next) :=
  fun s blank result s' ran => kept s blank s blank result s' ran

theorem keeps_moveTo (rest : List Char) : Keeps (moveTo rest) :=
  .modify fun _ blank => { blank with rest := fun c member => blank.rest c (Cursor.mem_of_mem_moveTo member) }

theorem keeps_allowKey (allowed : Bool) : Keeps (allowKey allowed) := .modify fun _ blank => { blank with }

theorem keeps_emit {t : Token} (own : t.OfBlank) : Keeps (emit t) :=
  .modify fun _ blank => { blank with tokens := List.forall_mem_cons.mpr ⟨own, blank.tokens⟩ }

theorem keeps_dropStaleKeys : Keeps dropStaleKeys := by
  refine .get_bind fun s _ => ?_
  have drops : Keeps (modify fun s => { s with openKeys := s.openKeys.filter fun k => !k.2.isStale s.cursor } :
      TokenReader Unit) := .modify fun _ blank => { blank with }
  exact .ite (.bind .malformed fun _ => drops) drops

theorem keeps_dropKey : Keeps dropKey := by
  refine .get_bind fun s _ => ?_
  have drops : Keeps (modify fun s => { s with openKeys := s.openKeys.filter (·.1 ≠ s.depth) } : TokenReader Unit) :=
    .modify fun _ blank => { blank with }
  exact .ite (.bind .malformed fun _ => drops) drops

theorem keeps_openKey : Keeps openKey := by
  refine .get_bind fun s _ => .ite ?_ (.pure ())
  exact .bind keeps_dropKey fun _ => .modify fun _ blank => { blank with }

theorem keeps_closeBlocks (beyond : Nat → Bool) : Keeps (closeBlocks beyond) := by
  refine .get_bind fun s blank => .ite ?_ (.pure ())
  simp only [blank.columns, List.takeWhile_nil, List.forIn_nil, pure_bind]
  exact .modify fun s blank => { blank with columns := by rw [blank.columns, List.dropWhile_nil] }

theorem keeps_plainText : Keeps plainText := by
  refine .bind keeps_openKey fun _ => .get_bind fun s blank => ?_
  have own : Token.OfBlank (.scalar true
      (plainScalar (s.depth > 0) ((s.columns.head?.map (· + 1)).getD 0) s.cursor.rest).1) :=
    .inl ⟨_, rfl, blank.rest.plainScalar _ _⟩
  exact .bind (keeps_allowKey _) fun _ => .bind (keeps_moveTo _) fun _ => keeps_emit own

theorem keeps_skipToToken : Keeps skipToToken :=
  .get_bind fun _ _ => .bind (keeps_moveTo _) fun _ => .ite (keeps_allowKey true) (.pure ())

/-- No token but a plain scalar begins with white space. -/
theorem keeps_token {c : Char} (blank : isBlank c = true) (tail : List Char) : Keeps (token c tail) := by
  have other {mark : Char} : isBlank mark = false → c ≠ mark := ne_of_isBlank blank
  have start : startsDocument (c :: tail) = false := by
    unfold startsDocument
    split
    · next same => exact absurd (List.cons.inj same).1 (other (by decide))
    · rfl
  have stop : endsDocument (c :: tail) = false := by
    unfold endsDocument
    split
    · next same => exact absurd (List.cons.inj same).1 (other (by decide))
    · rfl
  refine .get_bind fun s _ => ?_
  simp (disch := decide) only [start, stop, other, decide_false, Bool.false_and, Bool.and_false, Bool.or_false,
    Bool.false_eq_true, if_false]
  exact .ite keeps_plainText .malformed

theorem keeps_step : Keeps step := by
  refine .bind keeps_skipToToken fun _ => .bind keeps_dropStaleKeys fun _ => .get_bind fun s blank => ?_
  refine .bind (keeps_closeBlocks _) fun _ => ?_
  cases more : s.cursor.rest with
  | nil => exact .bind (keeps_closeBlocks _) fun _ => .bind keeps_dropKey fun _ => .pure false
  | cons c tail =>
    have own := blank.rest c (more ▸ List.mem_cons_self ..)
    exact .bind (keeps_token own tail) fun _ => .pure true

end TokenReader

/-- All tokens from a place in a blank text on are scalars of blanks, but for a fault. -/
theorem TokenState.InBlank.read {s : TokenState} (blank : s.InBlank) (count : Nat) : ∀ t ∈ s.read count, t.OfBlank := by
  have fault {s : TokenState} (blank : s.InBlank) : ∀ t ∈ s.upTo .malformed, t.OfBlank := by
    intro t member
    rcases List.mem_append.mp member with front | last
    · exact blank.tokens t (List.mem_reverse.mp (List.mem_of_mem_take front))
    · exact .inr (List.mem_singleton.mp last)
  induction count generalizing s with
  | zero => exact fault blank
  | succ count ih =>
    rcases ran : TokenReader.step.run.run s with ⟨result, next⟩
    obtain ⟨kept, known⟩ := TokenReader.keeps_step s blank _ _ ran
    rw [TokenState.read, ran]
    match result with
    | .ok true => exact ih kept
    | .ok false => exact fun t member => kept.tokens t (List.mem_reverse.mp member)
    | .error f =>
      rw [known f rfl]
      exact fault blank

theorem ofBlank_ofText {s : List Char} (blank : AllBlank s) : ∀ t ∈ Token.ofText s, t.OfBlank := by
  unfold Token.ofText
  split
  · have start : TokenState.InBlank ⟨⟨s, 0, 0, 0⟩, 0, [], true, [], []⟩ := ⟨blank, rfl, rfl, List.forall_mem_nil _⟩
    exact start.read _
  · intro t member
    exact .inr (List.mem_singleton.mp member)

section Look

variable {s text : List Char}

theorem isDigit_of_isBlank {c : Char} (blank : isBlank c = true) : c.isDigit = false := by
  have code : c.val.toNat = c.toNat := rfl
  simp only [isBlank, Bool.or_eq_true, Bool.and_eq_true, decide_eq_true_eq, beq_iff_eq] at blank
  simp only [Char.isDigit, ge_iff_le, UInt32.le_iff_toNat_le, code, Bool.and_eq_false_iff, decide_eq_false_iff_not]
  simp
  omega

theorem dropSign_of_blank (blank : AllBlank s) : dropSign s = s := by
  unfold dropSign
  split
  · exact absurd rfl (ne_of_isBlank (blank '+' (List.mem_cons_self ..)) (by decide))
  · exact absurd rfl (ne_of_isBlank (blank '-' (List.mem_cons_self ..)) (by decide))
  · rfl

theorem looksFloat_of_blank (blank : AllBlank s) : looksFloat s = false := by
  simp only [looksFloat, dropSign_of_blank blank]
  split
  · exact absurd rfl (ne_of_isBlank (blank '.' (List.mem_cons_self ..)) (by decide))
  · next c rest _ => rw [isDigit_of_isBlank (blank c (List.mem_cons_self ..)), Bool.false_and]
  · rfl

theorem looksWhole_of_blank (blank : AllBlank s) : looksWhole s = false := by
  have zero (rest : List Char) (same : s = '0' :: rest) : False :=
    ne_of_isBlank (blank '0' (same ▸ List.mem_cons_self ..)) (by decide) rfl
  simp only [looksWhole, dropSign_of_blank blank]
  split
  · exact absurd rfl (zero [])
  · exact absurd rfl (zero _)
  · exact absurd rfl (zero _)
  · exact absurd rfl (zero _)
  · next c rest _ _ _ _ => rw [isDigit_of_isBlank (blank c (List.mem_cons_self ..)), Bool.false_and]
  · rfl

theorem looksMoment_of_blank (blank : AllBlank s) : looksMoment s = false := by
  have none : takeNumber? 4 s = none := by
    refine if_neg fun ⟨length, digits⟩ => ?_
    match s with
    | [] => cases length
    | c :: rest =>
      have first := List.all_eq_true.mp digits c (List.mem_cons_self ..)
      rw [isDigit_of_isBlank (blank c (List.mem_cons_self ..))] at first
      cases first
  simp [looksMoment, writtenMoment?, none]

/-- No word is a text of white space. -/
theorem not_among {words : List String} (blank : AllBlank s) (solid : ∀ w ∈ words, w.toList.all isBlank = false) :
    words.any (fun w => w.toList = s) = false := by
  refine List.any_eq_false.mpr fun w member same => ?_
  have own : w.toList.all isBlank = true := List.all_eq_true.mpr fun c inside => blank c (of_decide_eq_true same ▸ inside)
  rw [solid w member] at own
  cases own

/-- A text of white space looks like a text, or like nothing. -/
theorem ofLook_of_blank (blank : AllBlank text) : Tag.ofLook text = .null ∨ Tag.ofLook text = .text := by
  have line : AllBlank (dropLineFeed text) := by
    unfold dropLineFeed
    split
    · exact blank.sublist (List.dropLast_sublist text)
    · exact blank
  unfold Tag.ofLook
  simp only [looksFloat_of_blank line, looksWhole_of_blank line, looksMoment_of_blank line,
    not_among line (by decide : ∀ w ∈ truthWords, w.toList.all isBlank = false),
    not_among line (by decide : ∀ w ∈ ["<<"], w.toList.all isBlank = false),
    not_among line (by decide : ∀ w ∈ ["="], w.toList.all isBlank = false),
    not_among line (by decide : ∀ w ∈ ["!", "&", "*"], w.toList.all isBlank = false), Bool.false_eq_true, if_false]
  split
  · exact .inl rfl
  · exact .inr rfl

end Look

/-- The only node that there can be in a blank text is a scalar of blanks. -/
theorem ofTokens?_of_blank {tokens : List Token} (blank : ∀ t ∈ tokens, t.OfBlank) :
    Graph.ofTokens? tokens = .ok (#[], none) ∨ Graph.ofTokens? tokens = .error .malformed ∨
      ∃ text, AllBlank text ∧ Graph.ofTokens? tokens = .ok (#[.scalar (.ofLook text) text], some 0) := by
  match tokens with
  | [] => exact .inl rfl
  | first :: rest =>
    obtain ⟨⟨text, rfl, own⟩ | rfl, later⟩ := List.forall_mem_cons.mp blank
    · match rest with
      | [] => exact .inr (.inr ⟨text, own, rfl⟩)
      | second :: rest =>
        obtain ⟨⟨text, rfl, _⟩ | rfl, _⟩ := List.forall_mem_cons.mp later
        · exact .inr (.inl rfl)
        · exact .inr (.inl rfl)
    · exact .inr (.inl rfl)

/-- Where no collection waits, there is nothing left to read. -/
theorem fillAll_of_none (reading count : Nat) (graph : Graph) (made : Array (Option Made)) :
    (Builder.fillAll reading count).run ⟨graph, made, []⟩ = .ok ((), ⟨graph, made, []⟩) := by
  cases count with
  | zero => rw [Builder.fillAll_zero]; rfl
  | succ count => rw [Builder.fillAll_succ]; rfl

theorem read_single {reading : Nat} {node : Node} {s : Scalar}
    (made : (Builder.make reading 0).run ⟨#[node], #[none], []⟩ = .ok ((), ⟨#[node], #[some (.scalar s)], []⟩)) :
    Graph.read reading #[node] 0 = .ok #[some (.scalar s)] := by
  have start : Array.replicate (#[node] : Graph).size (none : Option Made) = #[none] := rfl
  have filled := fillAll_of_none reading 1 #[node] #[some (.scalar s)]
  rw [Graph.read, start, Builder.readFrom, StateT.run_bind, made]
  exact congrArg (Except.map fun r => r.2.made) filled

end Yaml

open Yaml in
/-- A blank text is read as null, or as a text, or it is not well formed. -/
theorem loadYaml_of_blank {s : List Char} (blank : AllBlank s) (reading : Nat) :
    loadYaml reading s = .error .malformed ∨ loadYaml reading s = .ok .null ∨
      ∃ text, loadYaml reading s = .ok (.text text) := by
  unfold loadYaml
  rcases ofTokens?_of_blank (ofBlank_ofText blank) with none | malformed | ⟨text, own, single⟩
  · rw [none]
    exact .inr (.inl rfl)
  · rw [malformed]
    exact .inl rfl
  · rw [single]
    rcases ofLook_of_blank own with look | look
    · have read := @read_single reading (.scalar .null text) .null rfl
      rw [look]
      refine .inr (.inl ?_)
      simp only [bind, Except.bind, read]
      rfl
    · have read := @read_single reading (.scalar .text text) (.text (String.ofList text)) rfl
      rw [look]
      refine .inr (.inr ⟨String.ofList text, ?_⟩)
      simp only [bind, Except.bind, read]
      rfl

end LayeredSettings
