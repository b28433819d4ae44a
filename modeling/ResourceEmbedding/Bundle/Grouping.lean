import ResourceEmbedding.Bundle.Locale
import ResourceEmbedding.Generation.Resource
import ResourceEmbedding.KeyMap

namespace ResourceEmbedding

def bundleExtension : String := ".properties"

structure BundleFile where
  directory : List Char
  stem : List Char
  resource : Resource

namespace BundleFile

def ofResource? (r : Resource) : Option BundleFile :=
  (Text.beforeEnding? bundleExtension.toList r.path.toList).map fun path =>
    ⟨Text.throughLast (· == '/') path, Text.afterLast (· == '/') path, r⟩

def siblings (files : List BundleFile) (f : BundleFile) : List (List Char) :=
  (files.filter fun g => g.directory == f.directory && g.stem != f.stem).map (·.stem)

-- A name counts as tagged with a locale only if the name without the tag belongs to a file of its
-- own or to another tagged name.
def isFamily (stems : List (List Char)) (base : List Char) : Bool :=
  stems.contains base || stems.any fun s => (Locale.split? s).any (·.1 == base)

-- The base name and the locale tag under which `f` is filed. The tag of a file for the default
-- locale is empty.
def place (files : List BundleFile) (f : BundleFile) : List Char × List Char :=
  match Locale.split? f.stem with
  | some (base, tag) => if isFamily (f.siblings files) base then (base, tag) else (f.stem, [])
  | none => (f.stem, [])

def bundlePath (files : List BundleFile) (f : BundleFile) : String :=
  .ofList (f.directory ++ (f.place files).1)

def locale (files : List BundleFile) (f : BundleFile) : String :=
  .ofList (f.place files).2

end BundleFile

abbrev Bundle := KeyMap Resource

def fileUnder (files : List BundleFile) (bundles : KeyMap Bundle) (f : BundleFile) :
    KeyMap Bundle :=
  bundles.upsert (f.bundlePath files) fun bundle =>
    (bundle.getD default).insert (f.locale files) f.resource

-- The bundles of some resources, by their paths. Resources of other kinds are in none.
def bundlesOf (resources : List Resource) : KeyMap Bundle :=
  let files := resources.filterMap BundleFile.ofResource?
  files.foldl (fileUnder files) default

end ResourceEmbedding
