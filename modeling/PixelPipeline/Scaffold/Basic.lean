import PixelPipeline.Text.Search

namespace PixelPipeline

structure Scaffold where
  prologue : String
  zeroBody : String
  epilogue : String
  deriving DecidableEq, Repr

namespace Scaffold

def boilerplate (s : Scaffold) : String := s.prologue ++ s.zeroBody ++ s.epilogue

/-- A fragment with the line break that it may lack at its end. -/
def closeLine (fragment : String) : String :=
  if fragment.toList.getLast? = some '\n' then fragment else fragment ++ "\n"

def wrap (s : Scaffold) (fragment : String) : String := s.prologue ++ closeLine fragment ++ s.epilogue

end Scaffold

end PixelPipeline
