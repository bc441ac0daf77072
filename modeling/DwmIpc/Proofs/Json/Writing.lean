import DwmIpc.Json.Writer

/-!
# What is written

The writer keeps its output backwards, in front of what was written before. A value
is written the same whatever stands before it (`write_eq`), so the document of a
value is put together from the documents of its parts: a text between quotes, and
items and fields joined by commas (`render_str`, `render_arr`, `render_obj`).
-/

namespace DwmIpc

namespace Text

@[simp] theorem joinWith_nil (separator : Text) : joinWith separator [] = [] := rfl

@[simp] theorem joinWith_singleton (separator part : Text) : joinWith separator [part] = part :=
  List.append_nil part

@[simp] theorem joinWith_cons_cons (separator part next : Text) (rest : List Text) :
    joinWith separator (part :: next :: rest) =
      part ++ separator ++ joinWith separator (next :: rest) := by
  simp [joinWith]

end Text

namespace Json

variable (charset : Charset)

/-- Between items and fields. -/
def comma : Text := [.scalar ',']

/-- A text between quotes. -/
def quoted (t : Text) : Text :=
  .scalar '"' :: (t.flatMap (escape charset) ++ [.scalar '"'])

/-- A key and its value. -/
def renderField (field : Text × Json) : Text :=
  quoted charset field.1 ++ .scalar ':' :: render charset field.2

theorem push_eq (done t : Text) : push done t = t.reverse ++ done :=
  List.reverseAux_eq

theorem push_append (done s t : Text) : push done (s ++ t) = push (push done s) t := by
  simp [push_eq]

theorem writeText_eq (done t : Text) : writeText charset done t = push done (quoted charset t) := by
  have hfold (done : Text) : t.foldl (fun done c => push done (escape charset c)) done =
      push done (t.flatMap (escape charset)) := by
    induction t generalizing done with
    | nil => rfl
    | cons c rest ih => rw [List.foldl_cons, ih, List.flatMap_cons, push_append]
  rw [writeText, hfold, quoted, push_eq, push_eq]
  simp

mutual

/-- What was written before stays as it is. -/
theorem write_eq (done : Text) : (value : Json) →
    write charset done value = push done (render charset value)
  | .null | .bool true | .bool false | .int _ | .float _ => by
    simp [write, render, push_eq]
  | .str t => by
    simp [write, render, writeText_eq, push_eq]
  | .arr items => by
    simp [write, render, writeItems_eq, push_eq]
  | .obj fields => by
    simp [write, render, writeFields_eq, push_eq]

/-- Writing items pushes them with commas in between. -/
theorem writeItems_eq (done : Text) : (items : List Json) →
    writeItems charset done items = push done (Text.joinWith comma (items.map (render charset)))
  | [] => rfl
  | [item] => by
    rw [writeItems, write_eq]
    simp
  | item :: next :: rest => by
    rw [writeItems, write_eq, writeItems_eq]
    simp [push_eq, comma]

/-- Writing fields pushes them with commas in between. -/
theorem writeFields_eq (done : Text) : (fields : List (Text × Json)) →
    writeFields charset done fields =
      push done (Text.joinWith comma (fields.map (renderField charset)))
  | [] => rfl
  | [(key, value)] => by
    rw [writeFields, write_eq, writeText_eq]
    simp [push_eq, renderField]
  | (key, value) :: next :: rest => by
    rw [writeFields, write_eq, writeText_eq, writeFields_eq]
    simp [push_eq, renderField, comma]

end

/-! ## Documents -/

theorem render_int (n : Int) : render charset (.int n) = Text.ofInt n := by
  simp [render, write, push_eq]

theorem render_float (x : Double) : render charset (.float x) = DecimalLayout.json.text x := by
  simp [render, write, push_eq]

theorem render_str (t : Text) : render charset (.str t) = quoted charset t := by
  simp [render, write, writeText_eq, push_eq]

/-- The items of a list stand in brackets. -/
theorem render_arr (items : List Json) : render charset (.arr items) =
    .scalar '[' :: (Text.joinWith comma (items.map (render charset)) ++ [.scalar ']']) := by
  simp [render, write, writeItems_eq, push_eq]

/-- The fields of an object stand in braces. -/
theorem render_obj (fields : List (Text × Json)) : render charset (.obj fields) =
    .scalar '\x7b' :: (Text.joinWith comma (fields.map (renderField charset)) ++
      [.scalar '\x7d']) := by
  simp [render, write, writeFields_eq, push_eq]

end Json

end DwmIpc
