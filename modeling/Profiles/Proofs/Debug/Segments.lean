import Profiles.Debug
import Profiles.Record

/-!
# What flags reach

Format flags reach the numbers and truth values of a text for debugging, and nothing else in it
(`Record.debug_text_eq_weave`). The text is cut where those stand: between them are segments with all the names,
keys, braces, indentation and quoted texts, and the segments are the same under all flags of one layout. They can
be told from the kind of the record and the texts that it holds. Behind each segment but the last comes a number
or a truth value, written as it is written when it stands alone under the same flags.

The printer is followed piece by piece (`Debug.pieces`): what it writes is a row of fixed texts and holes. The
flags are looked at when the holes are filled, and only then.
-/

namespace Profiles

namespace Debug

/-! ### Pieces -/

/-- A piece of a text for debugging. -/
inductive Piece where
  | fixed (text : List Char)
  /-- The place of a number or a truth value. -/
  | hole (value : Scalar)

/-- A text is fixed; what flags change is not. -/
def Piece.ofScalar : Scalar → Piece
  | .str text => fixed (Text.Literal.encode text.toList)
  | value => hole value

/-- What a piece becomes in a text: fixed characters stay as they are, and the flags decide about a leaf. -/
def Piece.render (format : Format) : Piece → List Char
  | fixed text => text
  | hole value => format.scalar value

mutual

/-- **The pieces of an outline** that stands `depth` levels in. -/
def pieces (layout : Layout) (depth : Nat) : Outline → List Piece
  | .scalar value => [.ofScalar value]
  | .struct name [] => [.fixed name.toList]
  | .struct name ((key, value) :: fields) =>
    .fixed (name.toList ++ layout.opening depth ++ renderKey key) :: pieces layout (depth + 1) value
      ++ fieldPieces layout depth fields ++ [.fixed (layout.closing depth)]

/-- The pieces of the fields after the first. -/
def fieldPieces (layout : Layout) (depth : Nat) : List (String × Outline) → List Piece
  | [] => []
  | (key, value) :: fields =>
    .fixed (layout.between depth ++ renderKey key) :: pieces layout (depth + 1) value
      ++ fieldPieces layout depth fields

end

theorem Piece.render_ofScalar (format : Format) (value : Scalar) :
    (ofScalar value).render format = format.scalar value := by
  cases value <;> rfl

section

variable (format : Format) (layout : Layout)

mutual

/-- **The text of an outline is that of its pieces**, one after the other. -/
theorem render_eq_flatMap (depth : Nat) : (outline : Outline) →
    render format layout depth outline = (pieces layout depth outline).flatMap (Piece.render format)
  | .scalar value => by
    rw [render, pieces, List.flatMap_singleton, Piece.render_ofScalar]
  | .struct name [] => by
    rw [render, pieces, List.flatMap_singleton, Piece.render]
  -- the pieces of the first value stand between the opening and those of the other fields
  | .struct name ((key, value) :: fields) => by
    have first := render_eq_flatMap (depth + 1) value
    have others := renderFields_eq_flatMap depth fields
    rw [render, pieces, first, others]
    simp only [List.flatMap_append, List.flatMap_cons, List.flatMap_nil, Piece.render, List.append_assoc,
      List.cons_append, List.append_nil]

theorem renderFields_eq_flatMap (depth : Nat) : (fields : List (String × Outline)) →
    renderFields format layout depth fields = (fieldPieces layout depth fields).flatMap (Piece.render format)
  | [] => rfl
  | (key, value) :: fields => by
    have first := render_eq_flatMap (depth + 1) value
    have others := renderFields_eq_flatMap depth fields
    rw [renderFields, fieldPieces, first, others]
    simp only [List.flatMap_append, List.flatMap_cons, Piece.render, List.append_assoc, List.cons_append]

end

end

/-! ### Segments -/

/-- A text in front of the first of some segments. -/
def prepend (text : List Char) : List (List Char) → List (List Char)
  | [] => [text]
  | segment :: segments => (text ++ segment) :: segments

/-- **The segments of a row of pieces**: the fixed texts up to the first hole, those up to the next, and so on. -/
def segments : List Piece → List (List Char)
  | [] => [[]]
  | .fixed text :: pieces => prepend text (segments pieces)
  | .hole _ :: pieces => [] :: segments pieces

end Debug

/-! ### Records -/

/-- The texts that a person holds, in the order of its fields. -/
def Person.strings (person : Person) : List String := [person.name, person.email]

/-- The string of a group. -/
def Group.strings (group : Group) : List String := [group.title]

/-- The strings of a workspace, in the order of its fields. -/
def Workspace.strings (workspace : Workspace) : List String := [workspace.slug, workspace.region]

/-- The strings of a fixture: those of its parts, one part after the other. -/
def Fixture.strings (fixture : Fixture) : List String :=
  fixture.person.strings ++ fixture.group.strings ++ fixture.workspace.strings

/-- **The texts that a record holds**, those of a fixture part by part. -/
def Record.strings : Record → List String
  | person p => p.strings
  | group g => g.strings
  | workspace w => w.strings
  | fixture f => f.strings

/-- The numbers and truth values that a person holds, in the order of its fields. -/
def Person.measures (person : Person) : List Scalar := [.int person.age, .bool person.isActive]

/-- The number of a group. -/
def Group.measures (group : Group) : List Scalar := [.int group.memberCount]

/-- The numbers and truth values of a fixture; a workspace has none. -/
def Fixture.measures (fixture : Fixture) : List Scalar := fixture.person.measures ++ fixture.group.measures

/-- **The numbers and truth values that a record holds**, those of a fixture part by part. A workspace has
none. -/
def Record.measures : Record → List Scalar
  | person p => p.measures
  | group g => g.measures
  | workspace _ => []
  | fixture f => f.measures

section

variable {layout : Debug.Layout} {depth : Nat} {text : String}

theorem Person.fixed_mem_pieces {person : Person} (h : text ∈ person.strings) :
    .fixed (Text.Literal.encode text.toList) ∈ Debug.pieces layout depth person.outline := by
  simp only [strings, List.mem_cons, List.not_mem_nil, or_false] at h
  rcases h with rfl | rfl <;>
    simp [outline, Outline.str, Debug.pieces, Debug.fieldPieces, Debug.Piece.ofScalar]

theorem Group.fixed_mem_pieces {group : Group} (h : text ∈ group.strings) :
    .fixed (Text.Literal.encode text.toList) ∈ Debug.pieces layout depth group.outline := by
  simp only [strings, List.mem_cons, List.not_mem_nil, or_false] at h
  rw [h]
  simp [outline, Outline.str, Debug.pieces, Debug.Piece.ofScalar]

theorem Workspace.fixed_mem_pieces {workspace : Workspace} (h : text ∈ workspace.strings) :
    .fixed (Text.Literal.encode text.toList) ∈ Debug.pieces layout depth workspace.outline := by
  simp only [strings, List.mem_cons, List.not_mem_nil, or_false] at h
  rcases h with rfl | rfl <;>
    simp [outline, Outline.str, Debug.pieces, Debug.fieldPieces, Debug.Piece.ofScalar]

theorem Fixture.fixed_mem_pieces {fixture : Fixture} (h : text ∈ fixture.strings) :
    .fixed (Text.Literal.encode text.toList) ∈ Debug.pieces layout depth fixture.outline := by
  simp only [strings, List.mem_append] at h
  -- the pieces of each part are among those of the fixture
  rw [outline, Debug.pieces, Debug.fieldPieces, Debug.fieldPieces, Debug.fieldPieces]
  rcases h with (h | h) | h
  · simp [Person.fixed_mem_pieces h]
  · simp [Group.fixed_mem_pieces h]
  · simp [Workspace.fixed_mem_pieces h]

end

namespace Record

/-- The pieces of the text of a record in one of the two layouts. -/
def pieces (record : Record) (alternate : Bool) : List Debug.Piece :=
  Debug.pieces (if alternate then .alternate else .plain) 0 record.outline

/-- **The segments of the text of a record** in one of the two layouts. -/
def segments (record : Record) (alternate : Bool) : List (List Char) := Debug.segments (record.pieces alternate)

/-- The texts of a record are quoted in fixed pieces. -/
theorem fixed_mem_pieces (record : Record) (alternate : Bool) {text : String} (h : text ∈ record.strings) :
    .fixed (Text.Literal.encode text.toList) ∈ record.pieces alternate := by
  cases record with
  | person p => exact Person.fixed_mem_pieces h
  | group g => exact Group.fixed_mem_pieces h
  | workspace w => exact Workspace.fixed_mem_pieces h
  | fixture f => exact Fixture.fixed_mem_pieces h

example : (group .new).segments false =
    ["GroupProfile \x7b title: \"core\", member_count: ".toList, " \x7d".toList] := by decide

end Record

end Profiles
