import CardText.Disk.OsError

/-! The operations on files that a run needs, in any monad that can perform them. -/
namespace CardText

structure Disk (m : Type → Type) where
  readText : String → m (Except OsError String)
  /-- With the directories on the way; one that is there already is no error. -/
  createDirectories : String → m (Except OsError Unit)
  writeText : String → String → m (Except OsError Unit)
  /-- A file at the new path is replaced. -/
  rename : String → String → m (Except OsError Unit)

end CardText
