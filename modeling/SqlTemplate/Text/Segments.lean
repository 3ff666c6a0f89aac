namespace SqlTemplate.Text

def splitOn (separator : Char) : List Char → List (List Char)
  | [] => [[]]
  | c :: s =>
    if c = separator then [] :: splitOn separator s
    else match splitOn separator s with
      | [] => [[c]]
      | piece :: pieces => (c :: piece) :: pieces

def segments (name : String) : String × List String :=
  match splitOn '.' name.toList with
  | [] => ("", [])
  | head :: rest => (String.ofList head, rest.map String.ofList)

def headSegment (name : String) : String := (segments name).1

end SqlTemplate.Text
