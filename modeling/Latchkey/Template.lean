import Latchkey.Template.Parser
import Latchkey.KeyError

namespace Latchkey

/-- A template: its text, and the segments that the text reads as. -/
structure Template where
  source : String
  segments : List Segment
  reads : Segment.read source = .ok segments

/-- A text in which every brace is doubled: as a template it is that text. -/
def escape (text : String) : String :=
  String.ofList (text.toList.flatMap fun c => if c = '{' ∨ c = '}' then [c, c] else [c])

namespace Template

/-- Templates with the same text are the same. -/
theorem ext_source {t u : Template} (h : t.source = u.source) : t = u := by
  obtain ⟨s, xs, hx⟩ := t
  obtain ⟨s', ys, hy⟩ := u
  subst h
  have : xs = ys := by simpa using hx.symm.trans hy
  subst this
  rfl

instance : DecidableEq Template := fun t u =>
  decidable_of_iff (t.source = u.source) ⟨ext_source, fun h => h ▸ rfl⟩

/-- The template with this text. -/
def parse (source : String) : Except KeyError Template :=
  match h : Segment.read source with
  | .ok segments => .ok ⟨source, segments, h⟩
  | .error fault => .error (.invalidTemplate source fault)

/-- The fields in order, with repetitions. -/
def fields (t : Template) : List Field := t.segments.filterMap Segment.field?

/-- The names of the fields in order, with repetitions. -/
def fieldNames (t : Template) : List String := t.fields.map Field.name

/-- The template below a namespace: the text taken literally, a separator, the template. -/
def withPrefix (t : Template) (space : String) : Except KeyError Template :=
  parse (escape space ++ ":" ++ t.source)

/-- The template, a separator, and the text taken literally. -/
def withSuffix (t : Template) (text : String) : Except KeyError Template :=
  parse (t.source ++ ":" ++ escape text)

/-- The whole family of keys: a star for every field. -/
def glob (t : Template) : String := String.join (t.segments.map Segment.glob)

end Template
end Latchkey
