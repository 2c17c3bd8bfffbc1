import PixelPipeline.Files.FileTree

namespace PixelPipeline

structure Shell (m : Type → Type) where
  files : Files m
  print : String → m Unit
  lap : m String

structure Console where
  tree : FileTree
  output : String := ""

namespace Console

def onTree {α : Type} (action : StateM FileTree α) : StateM Console α := fun c =>
  let (a, tree) := action c.tree
  (a, { c with tree })

def shell (time : String) : Shell (StateM Console) where
  files := FileTree.files.lift onTree
  print text := modify fun c => { c with output := c.output ++ text }
  lap := return time

end Console

end PixelPipeline
