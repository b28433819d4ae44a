namespace ResourceEmbedding.Text

-- The lines of the rest of a text, after the characters of `line`, last first.
def linesFrom (line : List Char) : List Char → List (List Char)
  | [] => if line.isEmpty then [] else [line.reverse]
  | c :: rest =>
    if c = '\n' then
      let content := match line with
        | '\r' :: line => line
        | line => line
      content.reverse :: linesFrom [] rest
    else linesFrom (c :: line) rest

-- The lines of a text, without what ends them: a newline, or a carriage return with a newline.
def lines (text : List Char) : List (List Char) :=
  linesFrom [] text

end ResourceEmbedding.Text
