import Profiles.Proofs.Record.Calls
import Profiles.Proofs.Record.Lines

/-!
# Renderings of a fixture

Every rendering of a fixture is put together from the renderings of its parts, each as it is on its own
(`Fixture.renderings_compose`): the calls of a part stand among those of the fixture, and its text stands in
the text of the fixture, on one line unchanged and on several lines moved further in.

The renderings themselves go down the outline with the level in hand and never look at a text again. That
the text of a part only has to be moved further in afterwards is what `Json.render_succ` and
`Debug.render_succ` say.
-/

namespace Profiles

/-- A text with so many spaces more after each of its line breaks. -/
def Text.movedIn (width : Nat) (text : String) : String := String.ofList (indented width text.toList)

theorem Text.toList_movedIn (width : Nat) (text : String) :
    (movedIn width text).toList = indented width text.toList :=
  String.toList_ofList

namespace Fixture

/-! ### From parts to a fixture -/

/-- The text of a fixture under a query is made from those of its parts, each asked by itself. -/
def Composes (fixture : Fixture) (query : Query) (join : String → String → String → String) : Prop :=
  ∃ person group workspace,
    (Record.person fixture.person).answer query = .ok (.text person) ∧
    (Record.group fixture.group).answer query = .ok (.text group) ∧
    (Record.workspace fixture.workspace).answer query = .ok (.text workspace) ∧
    (Record.fixture fixture).answer query = .ok (.text (join person group workspace))

/-- The JSON text of a fixture on one line, from the texts of its parts. -/
def joinCompact (person group workspace : String) : String :=
  "\x7b\"person\":" ++ person ++ ",\"group\":" ++ group ++ ",\"workspace\":" ++ workspace ++ "\x7d"

/-- The JSON text of a fixture on many lines. The lines of its parts stand one level further in than where each is
alone. -/
def joinPretty (person group workspace : String) : String :=
  "\x7b\n  \"person\": " ++ Text.movedIn 2 person ++ ",\n  \"group\": " ++ Text.movedIn 2 group
    ++ ",\n  \"workspace\": " ++ Text.movedIn 2 workspace ++ "\n\x7d"

/-- The text of a fixture for debugging on one line, from the texts of its parts. -/
def joinPlain (person group workspace : String) : String :=
  "FixtureSet \x7b person: " ++ person ++ ", group: " ++ group ++ ", workspace: " ++ workspace
    ++ " \x7d"

/-- The text of a fixture for debugging on many lines. The lines of its parts are moved in, and each part ends with a
comma. -/
def joinAlternate (person group workspace : String) : String :=
  "FixtureSet \x7b\n    person: " ++ Text.movedIn 4 person ++ ",\n    group: "
    ++ Text.movedIn 4 group ++ ",\n    workspace: " ++ Text.movedIn 4 workspace ++ ",\n\x7d"

/-- Three texts and what stands before, between and after them, as characters. -/
theorem toList_join (first person second group third workspace last : String) :
    (first ++ person ++ second ++ group ++ third ++ workspace ++ last).toList =
      first.toList ++ (person.toList ++ (second.toList ++ (group.toList ++ (third.toList ++
        (workspace.toList ++ last.toList))))) := by
  simp only [String.toList_append, List.append_assoc]

variable (fixture : Fixture)

/-! ### JSON -/

/-- The document of a fixture: each part stands behind its key, moved further in. -/
theorem render_toJson_outline (pretty : Bool) :
    fixture.outline.toJson.render (.select pretty) 0 =
      '{' :: ((Json.Layout.select pretty).lineBreak 1 ++ Json.renderName (.select pretty) "person") ++
      (Text.indented (Json.Layout.step pretty)
        (fixture.person.outline.toJson.render (.select pretty) 0) ++
      (',' :: ((Json.Layout.select pretty).lineBreak 1 ++ Json.renderName (.select pretty) "group") ++
      (Text.indented (Json.Layout.step pretty)
        (fixture.group.outline.toJson.render (.select pretty) 0) ++
      (',' :: ((Json.Layout.select pretty).lineBreak 1 ++
        Json.renderName (.select pretty) "workspace") ++
      (Text.indented (Json.Layout.step pretty)
        (fixture.workspace.outline.toJson.render (.select pretty) 0) ++
      ((Json.Layout.select pretty).lineBreak 0 ++ ['}'])))))) := by
  simp only [outline, Outline.toJson, Outline.membersOf, Json.render, Json.renderMembers,
    Json.render_succ, List.append_assoc, List.cons_append, List.nil_append]

theorem json_compact_eq : fixture.outline.json false =
    joinCompact (fixture.person.outline.json false) (fixture.group.outline.json false)
      (fixture.workspace.outline.json false) := by
  have first : '{' :: ((Json.Layout.select false).lineBreak 1 ++
      Json.renderName (.select false) "person") = "\x7b\"person\":".toList := rfl
  have second : ',' :: ((Json.Layout.select false).lineBreak 1 ++
      Json.renderName (.select false) "group") = ",\"group\":".toList := rfl
  have third : ',' :: ((Json.Layout.select false).lineBreak 1 ++
      Json.renderName (.select false) "workspace") = ",\"workspace\":".toList := rfl
  have last : (Json.Layout.select false).lineBreak 0 ++ ['}'] = "\x7d".toList := rfl
  -- a layout on one line moves nothing in
  have unmoved (text : List Char) : Text.indented (Json.Layout.step false) text = text :=
    Text.indented_zero text
  refine String.toList_inj.mp (Eq.trans ?_ (toList_join _ _ _ _ _ _ _).symm)
  simp only [Outline.toList_json, render_toJson_outline, first, second, third, last, unmoved]

theorem json_pretty_eq : fixture.outline.json true =
    joinPretty (fixture.person.outline.json true) (fixture.group.outline.json true)
      (fixture.workspace.outline.json true) := by
  have first : '{' :: ((Json.Layout.select true).lineBreak 1 ++
      Json.renderName (.select true) "person") = "\x7b\n  \"person\": ".toList := rfl
  have second : ',' :: ((Json.Layout.select true).lineBreak 1 ++
      Json.renderName (.select true) "group") = ",\n  \"group\": ".toList := rfl
  have third : ',' :: ((Json.Layout.select true).lineBreak 1 ++
      Json.renderName (.select true) "workspace") = ",\n  \"workspace\": ".toList := rfl
  have last : (Json.Layout.select true).lineBreak 0 ++ ['}'] = "\n\x7d".toList := rfl
  -- each level is two spaces, of which a part gets those of one more
  have moved : Json.Layout.step true = 2 := rfl
  refine String.toList_inj.mp (Eq.trans ?_ (toList_join _ _ _ _ _ _ _).symm)
  simp only [Text.toList_movedIn, Outline.toList_json, render_toJson_outline, first, second, third, last,
    moved]

/-! ### Texts for debugging -/

variable {format : Format}

theorem render_outline (fill : 0x20 ≤ format.fill.toNat) :
    Debug.render format (.select format) 0 fixture.outline =
      "FixtureSet".toList ++ (Debug.Layout.select format).opening 0 ++ Debug.renderKey "person" ++
      (Text.indented (Debug.Layout.step format)
        (Debug.render format (.select format) 0 fixture.person.outline) ++
      ((Debug.Layout.select format).between 0 ++ Debug.renderKey "group" ++
      (Text.indented (Debug.Layout.step format)
        (Debug.render format (.select format) 0 fixture.group.outline) ++
      ((Debug.Layout.select format).between 0 ++ Debug.renderKey "workspace" ++
      (Text.indented (Debug.Layout.step format)
        (Debug.render format (.select format) 0 fixture.workspace.outline) ++
      (Debug.Layout.select format).closing 0))))) := by
  -- a part is told one level further in, so its lines are moved in by one step
  have person := Debug.render_succ fill 0 _ fixture.person.namesInline_outline
  have group := Debug.render_succ fill 0 _ fixture.group.namesInline_outline
  have workspace := Debug.render_succ fill 0 _ fixture.workspace.namesInline_outline
  simp only [outline, Debug.render, Debug.renderFields, person, group, workspace, List.append_assoc,
    List.append_nil]

theorem debug_plain_eq (fill : 0x20 ≤ format.fill.toNat) (plain : format.alternate = false) :
    Debug.text format fixture.outline =
      joinPlain (Debug.text format fixture.person.outline) (Debug.text format fixture.group.outline)
        (Debug.text format fixture.workspace.outline) := by
  have layout : Debug.Layout.select format = .plain := by simp [Debug.Layout.select, plain]
  have unmoved (text : List Char) : Text.indented (Debug.Layout.step format) text = text := by
    simp [Debug.Layout.step, plain]
  have first : "FixtureSet".toList ++ Debug.Layout.plain.opening 0 ++ Debug.renderKey "person"
      = "FixtureSet \x7b person: ".toList := rfl
  have second : Debug.Layout.plain.between 0 ++ Debug.renderKey "group" = ", group: ".toList := rfl
  have third : Debug.Layout.plain.between 0 ++ Debug.renderKey "workspace" = ", workspace: ".toList := rfl
  have last : Debug.Layout.plain.closing 0 = " \x7d".toList := rfl
  refine String.toList_inj.mp (Eq.trans ?_ (toList_join _ _ _ _ _ _ _).symm)
  simp only [Debug.toList_text, render_outline fixture fill, unmoved]
  simp only [layout, first, second, third, last]

theorem debug_alternate_eq (fill : 0x20 ≤ format.fill.toNat) (alternate : format.alternate = true) :
    Debug.text format fixture.outline =
      joinAlternate (Debug.text format fixture.person.outline) (Debug.text format fixture.group.outline)
        (Debug.text format fixture.workspace.outline) := by
  have layout : Debug.Layout.select format = .alternate := by simp [Debug.Layout.select, alternate]
  -- the step between two levels is four spaces
  have moved : Debug.Layout.step format = 4 := by simp [Debug.Layout.step, alternate]
  have first : "FixtureSet".toList ++ Debug.Layout.alternate.opening 0 ++ Debug.renderKey "person"
      = "FixtureSet \x7b\n    person: ".toList := rfl
  have second : Debug.Layout.alternate.between 0 ++ Debug.renderKey "group"
      = ",\n    group: ".toList := rfl
  have third : Debug.Layout.alternate.between 0 ++ Debug.renderKey "workspace"
      = ",\n    workspace: ".toList := rfl
  have last : Debug.Layout.alternate.closing 0 = ",\n\x7d".toList := rfl
  refine String.toList_inj.mp (Eq.trans ?_ (toList_join _ _ _ _ _ _ _).symm)
  simp only [Text.toList_movedIn, Debug.toList_text, render_outline fixture fill, moved]
  simp only [layout, first, second, third, last]

/-! ### All renderings -/

/-- A query that is answered by a text of the outline, which is joined for a fixture. -/
theorem Composes.of_eq {query : Query} {join : String → String → String → String}
    (text : Outline → String)
    (answered : ∀ record : Record, record.answer query = .ok (.text (text record.outline)))
    (joined : text fixture.outline =
      join (text fixture.person.outline) (text fixture.group.outline) (text fixture.workspace.outline)) :
    fixture.Composes query join := by
  -- one function of the outline answers records of all kinds
  refine ⟨text fixture.person.outline, text fixture.group.outline, text fixture.workspace.outline,
    answered (.person fixture.person), answered (.group fixture.group),
    answered (.workspace fixture.workspace), ?_⟩
  rw [← joined]
  exact answered (.fixture fixture)

/-- **Every rendering of a fixture is made of those of its parts.** The calls of each part stand behind its
key, as they are; so do the texts where they are one line, and where they are several each part is moved
further in, by two spaces or by four. -/
theorem renderings_compose :
    (∃ person group workspace,
      (Record.person fixture.person).answer (.calls none) = .ok (.events person) ∧
      (Record.group fixture.group).answer (.calls none) = .ok (.events group) ∧
      (Record.workspace fixture.workspace).answer (.calls none) = .ok (.events workspace) ∧
      (Record.fixture fixture).answer (.calls none) = .ok (.events
        ([.enter "FixtureSet" 3] ++ .field "person" :: person ++ .field "group" :: group
          ++ .field "workspace" :: workspace ++ [.leave]))) ∧
    fixture.Composes (.json false) joinCompact ∧
    fixture.Composes (.json true) joinPretty ∧
    ∀ spec ∈ Format.supported, ∃ format, Format.ofSpec? spec = some format ∧
      (format.alternate = false → fixture.Composes (.debug spec) joinPlain) ∧
      (format.alternate = true → fixture.Composes (.debug spec) joinAlternate) := by
  refine ⟨?_, .of_eq fixture (·.json false) (fun _ => rfl) fixture.json_compact_eq,
    .of_eq fixture (·.json true) (fun _ => rfl) fixture.json_pretty_eq, ?_⟩
  -- a fixture announces three fields, and tells each part where its key is
  · have told (record : Record) := record.answer_calls_unlimited
    refine ⟨fixture.person.outline.events, fixture.group.outline.events,
      fixture.workspace.outline.events, told (.person fixture.person), told (.group fixture.group),
      told (.workspace fixture.workspace), ?_⟩
    have calls : fixture.outline.events = [.enter "FixtureSet" 3]
        ++ .field "person" :: fixture.person.outline.events
        ++ .field "group" :: fixture.group.outline.events
        ++ .field "workspace" :: fixture.workspace.outline.events ++ [.leave] := by
      simp [outline, Outline.events, Outline.fieldEvents]
    rw [← calls]
    exact told (.fixture fixture)
  -- the flag of the specification decides which of the two joins it is
  · intro spec supported
    obtain ⟨format, read, fill⟩ := Format.exists_of_supported supported
    have answered (record : Record) :
        record.answer (.debug spec) = .ok (.text (Debug.text format record.outline)) := by
      rw [Record.answer, read]
    refine ⟨format, read, fun plain => ?_, fun alternate => ?_⟩
    · exact .of_eq fixture (Debug.text format) answered (fixture.debug_plain_eq fill plain)
    · exact .of_eq fixture (Debug.text format) answered (fixture.debug_alternate_eq fill alternate)

/-- Line breaks and brackets in the parts of a fixture do not come between its parts, in one line or in
several. -/
theorem renderings_compose_broken_name :
    let fixture : Fixture := ⟨.new "a\nb" (-1) "", .new, .new "\x7d\n"⟩
    "#010x?" ∈ Format.supported ∧ "08x?" ∈ Format.supported ∧
      fixture.Composes (.debug "#010x?") joinAlternate ∧
      fixture.Composes (.debug "08x?") joinPlain := by
  intro fixture
  have broken : "#010x?" ∈ Format.supported := by decide
  have unbroken : "08x?" ∈ Format.supported := by decide
  refine ⟨broken, unbroken, ?_, ?_⟩
  · obtain ⟨format, read, -, alternate⟩ := (renderings_compose fixture).2.2.2 _ broken
    exact alternate (Format.alternate_eq (by decide) read)
  · obtain ⟨format, read, plain, -⟩ := (renderings_compose fixture).2.2.2 _ unbroken
    exact plain (Format.alternate_eq (by decide) read)

end Fixture

end Profiles
