namespace PixelPipeline.Text

def occursIn (word : List Char) : List Char → Bool
  | [] => word.isEmpty
  | c :: rest => word.isPrefixOf (c :: rest) || occursIn word rest

theorem occursIn_iff {word text : List Char} : occursIn word text = true ↔ word <:+: text := by
  induction text with
  | nil => simp [occursIn]
  | cons c rest ih => simp [occursIn, ih, List.infix_cons_iff]

def contains (text word : String) : Bool :=
  occursIn word.toList text.toList

theorem contains_iff {text word : String} : contains text word = true ↔ word.toList <:+: text.toList :=
  occursIn_iff

end PixelPipeline.Text
