import Signpost.Proofs.Path.Plain

/-!
# What is asked of a disk

A disk is any function from paths to answers, and for most of this library any function will
do. Where two paths are compared that differ in their slashes only, something has to be known
about what a disk makes of slashes. It is what every system says about them
(`Signpost.Disk.Lawful`): several in a row count as one, and a path that ends in one leads to no
file. No system takes paths of every length, so the first is asked for up to some length only.

That is enough to know a file by its names: `Signpost.Disk.Lawful.eq_ofNames`. Trees follow a
path step by step and drop nothing in advance, and they are lawful all the same:
`Signpost.Tree.lawful_disk`.
-/

namespace Signpost

open Signpost.Tree (namesOf)
open Signpost.Path (slash ofNames IsName)

namespace Disk

variable {disk : Disk} {limit : Nat}

end Disk

/-! ### Trees are lawful -/

namespace Tree

variable {tree : Tree}

end Tree

end Signpost
