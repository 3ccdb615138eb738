import DetectorReadout.Json.Token

/-!
# Reading a JSON text

`Json.parse` reads a whole text as one value. It keeps the containers that are not yet closed in a list, so the nesting of
a text is bounded by nothing but its length, and every token is one step.
-/

namespace DetectorReadout

namespace Json

/-- A container that is not yet closed, with what it holds so far, last one first. -/
inductive Frame where
  /-- A list. -/
  | array (items : List Json)
  /-- An object, with the key of the field that is being read. -/
  | object (fields : List (Option String × Json)) (key : Option String)

/-- What has been read so far, named for what must come next. The containers stand innermost first. -/
inductive Reading where
  /-- A value. -/
  | value (outer : List Frame)
  /-- The first value of a list, or its end. -/
  | firstItem (outer : List Frame)
  /-- The first key of an object, or its end. -/
  | firstKey (outer : List Frame)
  /-- The next key of an object. -/
  | key (fields : List (Option String × Json)) (outer : List Frame)
  /-- The colon behind a key. -/
  | colon (fields : List (Option String × Json)) (key : Option String) (outer : List Frame)
  /-- A comma or the end of the container, if there is one: a value has been read. -/
  | behind (value : Json) (outer : List Frame)

namespace Reading

/-- Behind the token with which a value begins. -/
def begin (outer : List Frame) : Token → Option Reading
  | .atom v => some (behind v outer)
  | .text s => some (behind (.text s) outer)
  | .openArray => some (firstItem outer)
  | .openObject => some (firstKey outer)
  | _ => none

/-- Behind the next token. -/
def next (r : Reading) (t : Token) : Option Reading :=
  match r, t with
  | value outer, t => begin outer t
  | firstItem outer, .closeArray => some (behind (.array []) outer)
  | firstItem outer, t => begin (.array [] :: outer) t
  | firstKey outer, .closeObject => some (behind (.object []) outer)
  | firstKey outer, .text k => some (colon [] k outer)
  | key fields outer, .text k => some (colon fields k outer)
  | colon fields k outer, .colon => some (value (.object fields k :: outer))
  | behind v (.array items :: outer), .comma => some (value (.array (v :: items) :: outer))
  | behind v (.array items :: outer), .closeArray => some (behind (.array (v :: items).reverse) outer)
  | behind v (.object fields k :: outer), .comma => some (key ((k, v) :: fields) outer)
  | behind v (.object fields k :: outer), .closeObject => some (behind (.object ((k, v) :: fields).reverse) outer)
  | _, _ => none

/-- The value, if one has been read and no container is open. -/
def result? : Reading → Option Json
  | behind v [] => some v
  | _ => none

end Reading

/-- The value of a sequence of tokens, read on from `r`. -/
def readFrom (r : Reading) : List Token → Option Json
  | [] => r.result?
  | t :: rest =>
    match r.next t with
    | some r => readFrom r rest
    | none => none

/-- The value of a text, if it is one JSON value with nothing but white space around it. -/
def parse (text : String) : Option Json := (Token.scan text).bind (readFrom (.value []))

end Json

end DetectorReadout
