import Codebook.Files

/-!
# What reading and writing come to

A path leads nowhere, to a directory it starts from or one above, or to a name in a directory. With
what stands at that name it is settled whether the path can be read as text and whether it can be
written, and with which fault if not. Whether it can be written does not depend on what is written.
-/

namespace Codebook

/-- The file at a path holds a text. -/
structure Holds (files : Files) (path text : String) : Prop where
  stands : ∃ place, files.destination path = .ok (.name place) ∧
    files.tree.at? place = some (.file text.toUTF8)
  noSlash : (Path.ofText path).endsInSlash = false

/-- A path leads to a file. -/
structure RegularFile (files : Files) (path : String) : Prop where
  stands : ∃ place content, files.destination path = .ok (.name place) ∧
    files.tree.at? place = some (.file content)
  noSlash : (Path.ofText path).endsInSlash = false

/-- Why a path cannot be read as text. -/
inductive Unread (files : Files) (path : String) : FileFault → Prop
  /-- It leads nowhere. -/
  | astray {fault : FileFault} (stopped : files.destination path = .error fault) :
    Unread files path fault
  /-- It leads to a directory it starts from or one above. -/
  | above (led : files.destination path = .ok .directory) : Unread files path .isDirectory
  /-- Nothing stands where it leads. -/
  | missing {place : List String} (led : files.destination path = .ok (.name place))
    (absent : files.tree.at? place = none) : Unread files path .notFound
  /-- A directory stands where it leads. -/
  | directory {place : List String} (led : files.destination path = .ok (.name place))
    (stands : files.tree.at? place = some .directory) : Unread files path .isDirectory
  /-- It asks for a directory, and a file stands there. -/
  | slash {place : List String} {content : ByteArray}
    (led : files.destination path = .ok (.name place))
    (stands : files.tree.at? place = some (.file content))
    (slash : (Path.ofText path).endsInSlash = true) : Unread files path .notDirectory
  /-- The file that stands there is not UTF-8. -/
  | bytes {place : List String} {content : ByteArray}
    (led : files.destination path = .ok (.name place))
    (stands : files.tree.at? place = some (.file content))
    (noSlash : (Path.ofText path).endsInSlash = false)
    (invalid : ¬ content.IsValidUTF8) : Unread files path .notText

/-- Why a path cannot be written. -/
inductive Unwritten (files : Files) (path : String) : FileFault → Prop
  /-- It leads nowhere. -/
  | astray {fault : FileFault} (noSlash : (Path.ofText path).endsInSlash = false)
    (stopped : files.destination path = .error fault) : Unwritten files path fault
  /-- It leads to a directory it starts from or one above. -/
  | above (noSlash : (Path.ofText path).endsInSlash = false)
    (led : files.destination path = .ok .directory) : Unwritten files path .isDirectory
  /-- A directory stands where it leads. -/
  | directory {place : List String} (noSlash : (Path.ofText path).endsInSlash = false)
    (led : files.destination path = .ok (.name place))
    (stands : files.tree.at? place = some .directory) : Unwritten files path .isDirectory
  /-- It asks for a directory, and what stands before its last name leads nowhere. -/
  | slashAstray {fault : FileFault} (slash : (Path.ofText path).endsInSlash = true)
    (stopped : files.above path = .error fault) : Unwritten files path fault
  /-- It asks for a directory, whatever its last name is. -/
  | slash {above : List String} (slash : (Path.ofText path).endsInSlash = true)
    (reached : files.above path = .ok above) : Unwritten files path .isDirectory

/-- A path can be written: it leads to a name in a directory, no directory stands there, and it does
not ask for one. -/
structure Writable (files : Files) (path : String) (place : List String) : Prop where
  led : files.destination path = .ok (.name place)
  noSlash : (Path.ofText path).endsInSlash = false
  notDirectory : files.tree.at? place ≠ some .directory

variable {files : Files} {path : String}

/-! ## Reading -/

/-- A path whose file holds a text is read as this text. -/
theorem Holds.readText {text : String} (holds : Holds files path text) :
    files.readText path = .ok text := by
  obtain ⟨⟨place, led, stands⟩, noSlash⟩ := holds
  have decoded : String.fromUTF8? text.toUTF8 = some text := dif_pos text.isValidUTF8
  simp only [Files.readText, Files.read, led, bind, Except.bind, stands, noSlash,
    Bool.false_eq_true, if_false, pure, Except.pure, decoded]

/-- A file holds one text. -/
theorem Holds.unique {text other : String} (holds : Holds files path text)
    (again : Holds files path other) : other = text :=
  Except.ok.inj (again.readText.symm.trans holds.readText)

/-- A path with a reason why it cannot be read is not read. -/
theorem Unread.readText {fault : FileFault} (unread : Unread files path fault) :
    files.readText path = .error fault := by
  cases unread with
  | astray stopped =>
    rw [Files.readText, Files.read, stopped]
    rfl
  | above led =>
    rw [Files.readText, Files.read, led]
    rfl
  | missing led absent => simp only [Files.readText, Files.read, led, bind, Except.bind, absent]; rfl
  | directory led stands =>
    simp only [Files.readText, Files.read, led, bind, Except.bind, stands]
    rfl
  | slash led stands slash =>
    simp only [Files.readText, Files.read, led, bind, Except.bind, stands, slash, if_true]
    rfl
  | bytes led stands noSlash invalid =>
    have undecoded : String.fromUTF8? _ = none := dif_neg invalid
    simp only [Files.readText, Files.read, led, bind, Except.bind, stands, noSlash,
      Bool.false_eq_true, if_false, pure, Except.pure, undecoded]
    rfl

/-- The file at a path holds a text, or there is a reason why it cannot be read. -/
theorem holds_or_unread (files : Files) (path : String) :
    (∃ text, Holds files path text) ∨ ∃ fault, Unread files path fault := by
  cases led : files.destination path with
  | error fault => exact .inr ⟨fault, .astray led⟩
  | ok destination =>
    cases destination with
    | directory => exact .inr ⟨_, .above led⟩
    | name place =>
      cases stands : files.tree.at? place with
      | none => exact .inr ⟨_, .missing led stands⟩
      | some node =>
        cases node with
        | directory => exact .inr ⟨_, .directory led stands⟩
        | file content =>
          cases slash : (Path.ofText path).endsInSlash with
          | true => exact .inr ⟨_, .slash led stands slash⟩
          | false =>
            by_cases valid : content.IsValidUTF8
            · exact .inl ⟨.ofByteArray content valid, ⟨place, led, stands⟩, slash⟩
            · exact .inr ⟨_, .bytes led stands slash valid⟩

/-- A path is read as the text that its file holds. -/
theorem readText_eq_ok_iff {text : String} :
    files.readText path = .ok text ↔ Holds files path text := by
  refine ⟨fun read => ?_, Holds.readText⟩
  rcases holds_or_unread files path with ⟨other, holds⟩ | ⟨fault, unread⟩
  · cases read.symm.trans holds.readText
    exact holds
  · cases read.symm.trans unread.readText

/-- A path is not read for the reason why it cannot be. -/
theorem readText_eq_error_iff {fault : FileFault} :
    files.readText path = .error fault ↔ Unread files path fault := by
  refine ⟨fun failed => ?_, Unread.readText⟩
  rcases holds_or_unread files path with ⟨text, holds⟩ | ⟨other, unread⟩
  · cases failed.symm.trans holds.readText
  · cases failed.symm.trans unread.readText
    exact unread

/-- There is a file at a path exactly if it leads to one. -/
theorem isFile_iff : files.isFile path = true ↔ RegularFile files path := by
  constructor
  · intro isFile
    rw [Files.isFile, Files.read] at isFile
    cases led : files.destination path with
    | error fault =>
      rw [led] at isFile
      cases isFile
    | ok destination =>
      cases destination with
      | directory =>
        rw [led] at isFile
        cases isFile
      | name place =>
        simp only [led, bind, Except.bind] at isFile
        cases stands : files.tree.at? place with
        | none =>
          rw [stands] at isFile
          cases isFile
        | some node =>
          cases node with
          | directory =>
            rw [stands] at isFile
            cases isFile
          | file content =>
            cases slash : (Path.ofText path).endsInSlash with
            | true =>
              rw [stands, slash] at isFile
              cases isFile
            | false => exact ⟨⟨place, content, led, stands⟩, slash⟩
  · rintro ⟨⟨place, content, led, stands⟩, noSlash⟩
    simp only [Files.isFile, Files.read, led, bind, Except.bind, stands, noSlash,
      Bool.false_eq_true, if_false]
    rfl

/-! ## Writing -/

/-- A path with a reason why it cannot be written is not written, whatever the content. -/
theorem Unwritten.write {fault : FileFault} (unwritten : Unwritten files path fault)
    (content : String) : files.write path content = .error fault := by
  cases unwritten with
  | astray noSlash stopped =>
    simp only [Files.write, noSlash, Bool.false_eq_true, if_false, stopped]
    rfl
  | above noSlash led =>
    simp only [Files.write, noSlash, Bool.false_eq_true, if_false, led]
    rfl
  | directory noSlash led stands =>
    simp only [Files.write, noSlash, Bool.false_eq_true, if_false, led, bind, Except.bind, stands]
    rfl
  | slashAstray slash stopped =>
    simp only [Files.write, slash, if_true, stopped]
    rfl
  | slash slash reached =>
    simp only [Files.write, slash, if_true, reached]
    rfl

/-- A path that can be written is written with any content, which is then what stands where the path
leads. -/
theorem Writable.write {place : List String} (writable : Writable files path place)
    (content : String) :
    files.write path content = .ok (files.put place (.file content.toUTF8)) := by
  obtain ⟨led, noSlash, notDirectory⟩ := writable
  simp only [Files.write, led, bind, Except.bind, noSlash, Bool.false_eq_true, if_false]
  rfl

/-- A path can be written, or there is a reason why it cannot. -/
theorem writable_or_unwritten (files : Files) (path : String) :
    (∃ place, Writable files path place) ∨ ∃ fault, Unwritten files path fault := by
  cases slash : (Path.ofText path).endsInSlash with
  | true =>
    cases reached : files.above path with
    | error fault => exact .inr ⟨fault, .slashAstray slash reached⟩
    | ok above => exact .inr ⟨_, .slash slash reached⟩
  | false =>
    cases led : files.destination path with
    | error fault => exact .inr ⟨fault, .astray slash led⟩
    | ok destination =>
      cases destination with
      | directory => exact .inr ⟨_, .above slash led⟩
      | name place =>
        by_cases stands : files.tree.at? place = some .directory
        · exact .inr ⟨_, .directory slash led stands⟩
        · exact .inl ⟨place, led, slash, stands⟩

end Codebook
