import TypstPress.Json.Writer
import TypstPress.Typst.Asset

/-!
# The list of images

The images that compiled source refers to, as a JSON list of their URLs and ids.
-/

namespace TypstPress.Manifest

/-- The entry of an image. -/
def entry (asset : Typst.Asset) : Json :=
  .obj [("source_url", .str asset.sourceUrl), ("asset_id", .str asset.id)]

/-- The list of images. -/
def ofAssets (assets : List Typst.Asset) : Json := .arr (assets.map entry)

/-- The list of images as a text that ends its last line. -/
def render (assets : List Typst.Asset) : String := (ofAssets assets).indented ++ "\n"

end TypstPress.Manifest
