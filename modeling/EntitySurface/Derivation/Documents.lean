import EntitySurface.Derivation.Arguments

/-!
# Images, attachments and print-outs

The operations on the binary content of an object. An entity may carry several images and
print-outs, which are told apart by the names of their properties.
-/

namespace EntitySurface.Derivation

/-- Setting and getting each image. -/
def images (entity : Entity) : List Contribution :=
  (entity.propertiesOf .imageContent).flatMap fun image =>
    let ending := image.suffix ++ entity.pascalName
    [.operation (entity.guardedOperation ("SetImage" ++ ending)
        [entity.objectArgument, fileArgument "image"] [entity.objectArgument] [.modify]),
     .operation (entity.guardedOperation ("GetImage" ++ ending) [entity.objectArgument]
        [fileArgument "image"] [.read])]

/-- Adding, downloading and deleting attachments. -/
def attachments (entity : Entity) : List Contribution :=
  let name := entity.pascalName
  let attachmentName := valueArgument "attachment_name" (.text 255)
  if entity.hasKind .fileContent then
    [.operation (entity.guardedOperation ("AddAttachment" ++ name)
        [entity.objectArgument, fileArgument "attachment"] [entity.objectArgument] [.modify]),
     .operation (entity.guardedOperation ("DownloadAttachment" ++ name)
        [entity.objectArgument, attachmentName] [fileArgument "attachment"] [.read]),
     .operation (entity.guardedOperation ("DeleteAttachment" ++ name)
        [entity.objectArgument, attachmentName] [entity.objectArgument] [.modify])]
  else []

/-- Previewing each print-out. -/
def printOuts (entity : Entity) : List Contribution :=
  (entity.propertiesOf .printOut).map fun printOut =>
    .operation (entity.guardedOperation ("Preview" ++ printOut.suffix ++ entity.pascalName)
      [entity.objectArgument] [fileArgument "document"] [.read])

end EntitySurface.Derivation
