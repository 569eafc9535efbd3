import ZatoCli.Python.Namespace

namespace ZatoCli

end ZatoCli
