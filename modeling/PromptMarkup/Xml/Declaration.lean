import PromptMarkup.Xml.Source

/-!
# The declaration of a document

The declaration gives a version, and may give an encoding and say whether the document stands alone, in this order.
-/

namespace PromptMarkup.Xml

/-- A pseudo-attribute of a declaration, with the texts from its name and from its value on. -/
structure PseudoAttribute where
  name : String
  value : String
  fromName : List Char
  fromValue : List Char
  rest : List Char

/-- Whether a character may stand in the value of a pseudo-attribute. -/
def isPseudoValueChar (c : Char) : Bool := c.isAlphanum || c == '.' || c == '-' || c == '_'

/-- Reads a pseudo-attribute: nothing at the end of the declaration, or the text from the character that is wrong. -/
def readPseudoAttribute (s : List Char) : Except (List Char) (Option PseudoAttribute) :=
  match s with
  | [] => .ok none
  | c :: _ =>
    if !isSpace c then .error s
    else
      match s.dropWhile isSpace with
      | [] => .ok none
      | n :: r =>
        let named := n :: r
        let isNamePart (c : Char) : Bool := c != '=' && !isSpace c && c.toNat < 128
        let name := named.takeWhile isNamePart
        let behindName := named.dropWhile isNamePart
        let atSign := behindName.dropWhile isSpace
        match atSign with
        | '=' :: t =>
          if name.isEmpty then .error atSign
          else
            let atQuote := t.dropWhile isSpace
            match atQuote with
            | q :: u =>
              if q == '"' || q == '\'' then
                let value := u.takeWhile isPseudoValueChar
                match u.dropWhile isPseudoValueChar with
                | [] => .error []
                | m :: v =>
                  if m = q then
                    .ok (some ⟨String.ofList name, String.ofList value, named, u, v⟩)
                  else .error (m :: v)
              else .error atQuote
            | [] => .error []
        | t => .error t

/-- What a declaration says, with the text from the encoding's name on. -/
structure Declaration where
  encoding : Option (String × List Char) := none
  standalone : Bool := false

/-- Reads the pseudo-attributes of a declaration, or gives the text from the character that is wrong. -/
def readDeclaration (s : List Char) : Except (List Char) Declaration := do
  match ← readPseudoAttribute s with
  | none => throw s
  | some version =>
    if version.name ≠ "version" then throw version.fromName
    match ← readPseudoAttribute version.rest with
    | none => return {}
    | some second =>
      if second.name = "encoding" then
        if !((second.value.toList.head?.map Char.isAlpha).getD false) then throw second.fromValue
        let encoding := some (second.value, second.fromValue)
        match ← readPseudoAttribute second.rest with
        | none => return { encoding }
        | some third => return { encoding, standalone := ← readStandalone third }
      else return { standalone := ← readStandalone second }
where
  /-- The last pseudo-attribute must say whether the document stands alone. -/
  readStandalone (a : PseudoAttribute) : Except (List Char) Bool := do
    if a.name ≠ "standalone" then throw a.fromName
    let value ←
      if a.value = "yes" then pure true
      else if a.value = "no" then pure false
      else throw a.fromValue
    match a.rest.dropWhile isSpace with
    | [] => return value
    | r => throw r

end PromptMarkup.Xml
