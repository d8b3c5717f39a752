import ImageBuild.Daemon.Message
import ImageBuild.Image

/-!
# Descriptions of images

What a daemon tells about images: the list of all of them, one of them in full, and the references
that were removed. Of all that only a few parts are used, but every part is checked.
-/

namespace ImageBuild

open Json

/-- A field that may be absent, and is checked even if it is not. -/
def dateField {α : Type} (name : String) : RecordField α :=
  .checked name .defaulted (readOptional readText)

/-- A list of texts. -/
def readTexts : List Char → Reading (List String) := readList readText

/-- A map of texts. -/
def readTextMap : List Char → Reading (List (String × String)) := readMap readText

/-! ## Lists of images -/

/-- The description of some content, as a document writes it. -/
def contentShape : Shape Unit where
  title := "struct OciDescriptor"
  fields := [
    checkedField "mediaType" readText, checkedField "digest" readText,
    checkedField "size" readInteger64]
  empty := ()

/-- The size of a manifest and of its content, as a document writes it. -/
def manifestSizeShape : Shape Unit where
  title := "struct ImageManifestSummarySize"
  fields := [
    .checked "Total" .required readInteger64, .checked "Content" .required readInteger64]
  empty := ()

/-- The platform of an image, as a document writes it. -/
def platformShape : Shape Unit where
  title := "struct OciPlatform"
  fields := [
    checkedField "architecture" readText, checkedField "os" readText,
    checkedField "os.version" readText, checkedField "os.features" readTexts,
    checkedField "variant" readText]
  empty := ()

/-- The size of an unpacked image, as a document writes it. -/
def unpackedSizeShape : Shape Unit where
  title := "struct ImageManifestSummaryImageDataSize"
  fields := [.checked "Unpacked" .required readInteger64]
  empty := ()

/-- What a manifest says about an image, as a document writes it. -/
def manifestImageShape : Shape Unit where
  title := "struct ImageManifestSummaryImageData"
  fields := [
    .checked "Platform" .required (readRecord platformShape),
    .checked "Containers" .required (readOptional readTexts),
    .checked "Size" .required (readRecord unpackedSizeShape)]
  empty := ()

/-- What a manifest says about an attestation, as a document writes it. -/
def attestationShape : Shape Unit where
  title := "struct ImageManifestSummaryAttestationData"
  fields := [.checked "For" .required readText]
  empty := ()

/-- The kinds of manifests. -/
def manifestKinds : List String := ["", "image", "attestation", "unknown"]

/-- A manifest of an image in a list, as a document writes it. -/
def manifestShape : Shape Unit where
  title := "struct ImageManifestSummary"
  fields := [
    .checked "ID" .required readText,
    .checked "Descriptor" .required (readRecord contentShape),
    .checked "Available" .required readBoolean,
    .checked "Size" .required (readRecord manifestSizeShape),
    .checked "Kind" .required (readVariant manifestKinds),
    checkedField "ImageData" (readRecord manifestImageShape),
    checkedField "AttestationData" (readRecord attestationShape)]
  empty := ()

/-- An image in a list, as a document writes it. -/
def Image.shape : Shape Image where
  title := "struct ImageSummary"
  fields := [
    .of "Id" .required readText fun i x => { i with id := x },
    .checked "ParentId" .required readText,
    .of "RepoTags" .required (readOptional readTexts) fun i x =>
      { i with references := x.getD [] },
    .checked "RepoDigests" .required (readOptional readTexts),
    .of "Created" .required readInteger64 fun i x => { i with created := x },
    .checked "Size" .required readInteger64,
    .checked "SharedSize" .required readInteger64,
    checkedField "VirtualSize" readInteger64,
    .checked "Labels" .required (readOptional readTextMap),
    .checked "Containers" .required readInteger64,
    checkedField "Manifests" (readList (readRecord manifestShape))]
  empty := ⟨"", [], 0⟩

/-! ## Single images -/

/-- How the health of a container is checked, as a document writes it. -/
def healthShape : Shape Unit where
  title := "struct HealthConfig"
  fields := [
    checkedField "Test" readTexts, checkedField "Interval" readInteger64,
    checkedField "Timeout" readInteger64, checkedField "Retries" readInteger64,
    checkedField "StartPeriod" readInteger64, checkedField "StartInterval" readInteger64]
  empty := ()

/-- The configuration of the containers of an image, as a document writes it. -/
def containerShape : Shape Unit where
  title := "struct ImageConfig"
  fields := [
    checkedField "Hostname" readText, checkedField "Domainname" readText,
    checkedField "User" readText, checkedField "AttachStdin" readBoolean,
    checkedField "AttachStdout" readBoolean, checkedField "AttachStderr" readBoolean,
    checkedField "ExposedPorts" (readMap readEmptyMap), checkedField "Tty" readBoolean,
    checkedField "OpenStdin" readBoolean, checkedField "StdinOnce" readBoolean,
    checkedField "Env" readTexts, checkedField "Cmd" readTexts,
    checkedField "Healthcheck" (readRecord healthShape),
    checkedField "ArgsEscaped" readBoolean, checkedField "Image" readText,
    checkedField "Volumes" (readMap readEmptyMap), checkedField "WorkingDir" readText,
    checkedField "Entrypoint" readTexts, checkedField "NetworkDisabled" readBoolean,
    checkedField "MacAddress" readText, checkedField "OnBuild" readTexts,
    checkedField "Labels" readTextMap, checkedField "StopSignal" readText,
    checkedField "StopTimeout" readInteger64, checkedField "Shell" readTexts]
  empty := ()

/-- The driver that stores an image, as a document writes it. -/
def driverShape : Shape Unit where
  title := "struct DriverData"
  fields := [
    .checked "Name" .required readText,
    .checked "Data" .required (readOptional readTextMap)]
  empty := ()

/-- The layers of an image, as a document writes them. -/
def layersShape : Shape Unit where
  title := "struct ImageInspectRootFs"
  fields := [.checked "Type" .required readText, checkedField "Layers" readTexts]
  empty := ()

/-- What a daemon keeps about an image, as a document writes it. -/
def metadataShape : Shape Unit where
  title := "struct ImageInspectMetadata"
  fields := [dateField "LastTagTime"]
  empty := ()

/-- The identifier of an image in its full description, as a document writes that. -/
def descriptionShape : Shape (Option String) where
  title := "struct ImageInspect"
  fields := [
    optionalField "Id" readText fun _ x => x,
    checkedField "RepoTags" readTexts, checkedField "RepoDigests" readTexts,
    checkedField "Parent" readText, checkedField "Comment" readText, dateField "Created",
    checkedField "DockerVersion" readText, checkedField "Author" readText,
    checkedField "Config" (readRecord containerShape), checkedField "Architecture" readText,
    checkedField "Variant" readText, checkedField "Os" readText,
    checkedField "OsVersion" readText, checkedField "Size" readInteger64,
    checkedField "VirtualSize" readInteger64,
    checkedField "GraphDriver" (readRecord driverShape),
    checkedField "RootFS" (readRecord layersShape),
    checkedField "Metadata" (readRecord metadataShape)]
  empty := none

/-! ## Removals -/

/-- A removed reference or image, as a document writes it. -/
def removalShape : Shape Unit where
  title := "struct ImageDeleteResponseItem"
  fields := [checkedField "Untagged" readText, checkedField "Deleted" readText]
  empty := ()

/-! ## Bodies of one document -/

/-- The value in the body of a reply. -/
def readBodyOf {α : Type} (value : List Char → Reading α) (body : String) : Except Frames α :=
  match readWhole value body.toList with
  | .ok x => .ok x
  | .error fault => .error [documentFrame body fault]

end ImageBuild
