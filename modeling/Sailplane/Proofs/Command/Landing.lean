import Mathlib.Data.List.Forall2
import Sailplane.Command.Download
import Sailplane.Proofs.Files.Inside
import Sailplane.Proofs.Http.Endings

/-!
# Where downloads land

The name of a file is cut out of an address, and then read again as a part of a path. Two dots are
no name of a file, so that an address that ends in them is refused. Any other name is that of a file
in the directory, and the file beside it is there, too. The exception is a single dot: it is taken
for the directory, so that the file beside it lies beside the directory.
-/
namespace Sailplane

namespace Text

/-- A piece of a text is made of characters of the text. -/
theorem mem_of_mem_pieces {separates : Char → Bool} {text piece : List Char}
    (listed : piece ∈ pieces separates text) {c : Char} (inside : c ∈ piece) : c ∈ text := by
  induction text generalizing piece with
  | nil =>
    rw [List.mem_singleton.mp listed] at inside
    exact inside
  | cons first rest ih =>
    rw [pieces] at listed
    split at listed
    · rcases List.mem_cons.mp listed with rfl | listed
      · cases inside
      · exact List.mem_cons_of_mem _ (ih listed inside)
    · cases found : pieces separates rest with
      | nil => exact absurd found (pieces_ne_nil rest)
      | cons head others =>
        rw [found] at listed ih
        rcases List.mem_cons.mp listed with rfl | listed
        · rcases List.mem_cons.mp inside with rfl | inside
          · exact List.mem_cons_self
          · exact List.mem_cons_of_mem _ (ih List.mem_cons_self inside)
        · exact List.mem_cons_of_mem _ (ih (List.mem_cons_of_mem _ listed) inside)

end Text

namespace Command

open Download (Failure Request RequestData)
open Http (partialName partialPath)

/-! ## The name of a file -/

/-- Whether a name is not empty, and free of what divides an address. -/
structure IsCut (name : String) : Prop where
  /-- It is not empty. -/
  letters : name ≠ ""
  /-- It has no slash, nor anything that ends a path. -/
  plain : ∀ c ∈ name.toList, c ≠ '/' ∧ c ≠ '?' ∧ c ≠ '#'

/-- The name of the file for an address is cut out of it. -/
theorem isCut_fileName (url : String) : IsCut (fileName url) := by
  unfold fileName
  dsimp only
  split
  · rename_i c rest found
    have listed := List.mem_of_getLast? found
    refine ⟨fun empty => ?_, fun d inside => ?_⟩
    · exact absurd (congrArg String.toList empty) (by simp)
    · rw [String.toList_ofList] at inside
      have slash := Text.not_separates_of_mem listed inside
      have ahead := List.all_eq_true.mp List.all_takeWhile d (Text.mem_of_mem_pieces listed inside)
      simp only [beq_eq_false_iff_ne] at slash
      simp only [Bool.and_eq_true, bne_iff_ne] at ahead
      exact ⟨slash, ahead⟩
  · exact ⟨by decide, by simp⟩

/-- It has no slash. -/
theorem slash_not_mem_fileName (url : String) : '/' ∉ (fileName url).toList := fun listed =>
  ((isCut_fileName url).plain '/' listed).1 rfl

/-! ## The request for an address -/

/-- A request is made for a path that ends in a name. -/
theorem file_of_named {path name : String} (named : Path.fileName? path = some name) (url : String)
    (data : RequestData) : Request.file url path data = .ok ⟨url, name, .file path, data⟩ := by
  rw [Request.file, named]

/-- Where the file beside a target lies depends on the name of the target, and on what is above
it. -/
theorem partialPath_congr {path other name : String} (named : Path.fileName? path = some name)
    (named' : Path.fileName? other = some name) (above : Path.parent? path = Path.parent? other)
    (tag : String) : partialPath path tag = partialPath other tag := by
  have sameName : partialName path tag = partialName other tag := by
    rw [partialName, partialName, named, named']
  obtain ⟨_, found, _⟩ := Path.lastSegment?_of_fileName? named'
  obtain ⟨up, parent, _⟩ := Path.parent?_of_lastSegment? found
  rw [partialPath, partialPath, sameName, Path.sibling, Path.sibling, named, above, named', parent]

/-- A target and a request for an address stay in a directory: both the file and the file beside it
are in it, and the request is named after the address. -/
structure Stays (directory url : String) (own : Target × Request) : Prop where
  /-- The file is wanted at the path. -/
  file : own.2.destination = .file own.1.path
  /-- The request has the name that is cut out of the address. -/
  named : own.2.name = fileName url
  /-- The path is that of a file of this name in the directory. -/
  inside : Path.IsIn directory own.1.path (fileName url)
  /-- The file in which it is received is in the directory, too. -/
  beside : ∀ tag, '/' ∉ tag.toList →
    Path.IsIn directory (partialPath own.1.path tag) (partialName own.1.path tag)

/-- A target and a request stray from a directory: they are for the directory itself. -/
structure Strays (directory : String) (own : Target × Request) : Prop where
  /-- The file is wanted at the path. -/
  file : own.2.destination = .file own.1.path
  /-- The request has the name of the directory. -/
  named : Path.fileName? directory = some own.2.name
  /-- The path leads to the directory. -/
  here : Path.place own.1.path = Path.place directory
  /-- The file in which it is received is the one beside the directory. -/
  beside : ∀ tag, partialPath own.1.path tag = partialPath directory tag

section Requests

variable {directory seat url : String} (seated : Path.fileName? directory = some seat)
include seated

/-- A file whose name means something is asked for in the directory. -/
theorem stays_of_isName (isName : Path.IsName (fileName url)) (digest : Download.Slot) :
    ∃ request, Request.file url (Path.join directory (fileName url)) (.withDigest .none digest) =
        .ok request ∧
      Stays directory url (⟨Path.join directory (fileName url), digest⟩, request) := by
  have plain := slash_not_mem_fileName url
  have inside := Path.isIn_join seated isName plain
  refine ⟨_, file_of_named inside.named url _, rfl, rfl, inside, fun tag noSlash => ?_⟩
  exact Path.isIn_sibling seated isName plain (Http.isName_partialName _ tag)
    (Http.plain_partialName noSlash)

/-- A single dot asks for the directory. -/
theorem strays_of_dot (dot : fileName url = ".") (digest : Download.Slot) :
    ∃ request, Request.file url (Path.join directory (fileName url)) (.withDigest .none digest) =
        .ok request ∧
      Strays directory (⟨Path.join directory (fileName url), digest⟩, request) := by
  obtain ⟨named, above, here⟩ := Path.join_dot seated
  rw [dot]
  exact ⟨_, file_of_named named url _, rfl, seated, here, partialPath_congr named seated above⟩

end Requests

/-- What is said of a request for a path without a name. -/
def unnamed (path : String) : Failure := .invalidRequest ("'" ++ path ++ "' has no file name")

/-- Two dots ask for nothing. -/
theorem refused_of_up {url : String} (up : fileName url = "..") (directory : String)
    (data : RequestData) : Request.file url (Path.join directory (fileName url)) data =
      .error (unnamed (Path.join directory "..")) := by
  rw [up, Request.file, Path.fileName?_join_up]
  rfl

/-! ## The requests for all addresses -/

section Planning

variable {directory url : String} {first : Nat}

/-- An address that is refused refuses all behind it. -/
theorem requests_of_refused {failure : Failure}
    (refused : Request.file url (Path.join directory (fileName url)) (.withDigest .none ⟨first⟩) =
      .error failure) (urls : List String) :
    requests directory first (url :: urls) = .error failure := by
  rw [requests, refused]
  rfl

/-- An address that has a request has it in front of those behind it. -/
theorem requests_of_made {request : Request}
    (made : Request.file url (Path.join directory (fileName url)) (.withDigest .none ⟨first⟩) =
      .ok request) (urls : List String) :
    requests directory first (url :: urls) = (requests directory (first + 1) urls).map
      ((⟨Path.join directory (fileName url), ⟨first⟩⟩, request) :: ·) := by
  rw [requests, made]
  cases requests directory (first + 1) urls <;> rfl

end Planning

/-- A target and a request for an address stay in a directory, unless they stray from it because of
a single dot. -/
def Lands (directory url : String) (own : Target × Request) : Prop :=
  if fileName url = "." then Strays directory own else Stays directory url own

/-- Where the requests for addresses land, numbered from a number on. -/
structure LandAll (directory : String) (first : Nat) (urls : List String) : Prop where
  /-- The names are cut out of the addresses. -/
  cut : ∀ url ∈ urls, IsCut (fileName url)
  /-- Two dots refuse all of them. -/
  refused : (∃ url ∈ urls, fileName url = "..") →
    requests directory first urls = .error (unnamed (Path.join directory ".."))
  /-- Otherwise each has its request, which lands. -/
  land : (∀ url ∈ urls, fileName url ≠ "..") →
    ∃ planned, requests directory first urls = .ok planned ∧
      List.Forall₂ (Lands directory) urls planned

/-- An address that does not end in two dots has a request that lands. -/
theorem exists_lands {directory seat url : String} (seated : Path.fileName? directory = some seat)
    (level : fileName url ≠ "..") (digest : Download.Slot) :
    ∃ request, Request.file url (Path.join directory (fileName url)) (.withDigest .none digest) =
        .ok request ∧
      Lands directory url (⟨Path.join directory (fileName url), digest⟩, request) := by
  by_cases dot : fileName url = "."
  · have ⟨request, made, strays⟩ := strays_of_dot seated dot digest
    exact ⟨request, made, by rwa [Lands, if_pos dot]⟩
  · have isName : Path.IsName (fileName url) := ⟨(isCut_fileName url).letters, dot, level⟩
    have ⟨request, made, stays⟩ := stays_of_isName seated isName digest
    exact ⟨request, made, by rwa [Lands, if_neg dot]⟩

/-- **Downloads land in the directory**, wherever it has a name: an address that ends in two dots
refuses them, and each other one has its file and the file beside it directly in the directory,
unless it ends in a single dot. -/
theorem land_all {directory seat : String} (seated : Path.fileName? directory = some seat)
    (first : Nat) (urls : List String) : LandAll directory first urls := by
  induction urls generalizing first with
  | nil =>
    refine ⟨fun other _ => isCut_fileName other, fun up => ?_, fun _ => ⟨[], rfl, .nil⟩⟩
    obtain ⟨_, listed, _⟩ := up
    exact absurd listed List.not_mem_nil
  | cons url urls ih =>
    have rest := ih (first + 1)
    by_cases up : fileName url = ".."
    · have refused := refused_of_up up directory (.withDigest .none ⟨first⟩)
      exact ⟨fun other _ => isCut_fileName other, fun _ => requests_of_refused refused urls,
        fun level => absurd up (level url List.mem_cons_self)⟩
    · obtain ⟨request, made, lands⟩ := exists_lands seated up ⟨first⟩
      have planning := requests_of_made made urls
      refine ⟨fun other _ => isCut_fileName other, fun behind => ?_, fun level => ?_⟩
      · obtain ⟨other, listed, above⟩ := behind
        rcases List.mem_cons.mp listed with rfl | listed
        · exact absurd above up
        · rw [planning, rest.refused ⟨other, listed, above⟩]
          rfl
      · obtain ⟨planned, others, land⟩ :=
          rest.land fun other listed => level other (List.mem_cons_of_mem _ listed)
        rw [planning, others]
        exact ⟨_, rfl, .cons lands land⟩

/-- Downloads to a directory of maps land in it. -/
theorem land_all_of_maps :
    Path.fileName? "maps" = some "maps" ∧
      LandAll "maps" 0 ["http://h/alps.xcm?x", "http://h/dir/", "http://h/."] := by
  have seated : Path.fileName? "maps" = some "maps" := by decide +kernel
  exact ⟨seated, land_all seated 0 _⟩

/-- A single dot strays: the request is not refused, but has the name of the directory. -/
theorem dot_not_refused :
    ¬∀ directory seat url, Path.fileName? directory = some seat →
      (∃ message, requests directory 0 [url] = .error (.invalidRequest message)) ∨
        ∃ own, requests directory 0 [url] = .ok [own] ∧ Stays directory url own := by
  intro claim
  let strayed : Target × Request := ⟨⟨"out/.", ⟨0⟩⟩,
    ⟨"http://h/.", "out", .file "out/.", .withDigest .none ⟨0⟩⟩⟩
  have asked : requests "out" 0 ["http://h/."] = .ok [strayed] := by decide +kernel
  rcases claim "out" "out" "http://h/." (by decide +kernel) with ⟨_, refused⟩ | ⟨own, stay, stays⟩
  · rw [asked] at refused
    cases refused
  · have same : strayed = own := List.head_eq_of_cons_eq (Except.ok.inj (asked.symm.trans stay))
    have named : strayed.2.name = fileName "http://h/." := same ▸ stays.named
    exact absurd named (by decide +kernel)

end Command

end Sailplane
